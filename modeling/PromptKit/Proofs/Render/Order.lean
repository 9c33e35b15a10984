import Mathlib.Data.List.Nodup
import Mathlib.Data.Prod.Lex
import PromptKit.Render.Schedule

/-!
The order of the polls of a render, and the order in which directives are done: by round, and by
position within a round.
-/
namespace PromptKit.Render

open Template

def Poll.key (p : Poll) : Nat ×ₗ Nat := toLex (p.round, p.position)

def Poll.notAfter (p q : Poll) : Bool := p.key ≤ q.key

def pollsOf (registry : Registry) (turn : Directive × Nat) : List Poll :=
  (List.range (finishRound registry turn.1 + 1)).map fun round => ⟨round, turn.2, turn.1⟩

def lastPoll (registry : Registry) (turn : Directive × Nat) : Poll :=
  ⟨finishRound registry turn.1, turn.2, turn.1⟩

def finishKey (registry : Registry) (turn : Directive × Nat) : Nat ×ₗ Nat :=
  toLex (finishRound registry turn.1, turn.2)

def pollOrder (registry : Registry) (ds : List Directive) : List Poll :=
  (ds.zipIdx.flatMap (pollsOf registry)).mergeSort Poll.notAfter

def finishOrder (registry : Registry) (ds : List Directive) : List Poll :=
  (ds.zipIdx.map (lastPoll registry)).mergeSort Poll.notAfter

def Poll.Due (registry : Registry) (ds : List Directive) (p : Poll) : Prop :=
  ds[p.position]? = some p.directive ∧ p.round ≤ finishRound registry p.directive

def Poll.IsLast (registry : Registry) (p : Poll) : Prop :=
  p.round = finishRound registry p.directive

instance (registry : Registry) (p : Poll) : Decidable (p.IsLast registry) :=
  inferInstanceAs (Decidable (_ = _))

variable {registry : Registry} {ds : List Directive} {p q : Poll} {polls : List Poll}

theorem le_foldl_max (ns : List Nat) (start : Nat) :
    start ≤ ns.foldl max start ∧ ∀ n ∈ ns, n ≤ ns.foldl max start := by
  induction ns generalizing start with
  | nil => simp
  | cons m ns ih =>
    obtain ⟨first, later⟩ := ih (max start m)
    simp only [List.foldl_cons, List.mem_cons, forall_eq_or_imp]
    exact ⟨by omega, by omega, later⟩

theorem finishRound_le_lastRound {d : Directive} (mem : d ∈ ds) :
    finishRound registry d ≤ lastRound registry ds :=
  (le_foldl_max _ 0).2 _ (List.mem_map_of_mem mem)

theorem mem_roundPolls {round : Nat} :
    p ∈ roundPolls registry ds round ↔ p.round = round ∧ p.Due registry ds := by
  obtain ⟨r, i, d⟩ := p
  simp only [roundPolls, List.mem_filterMap, Prod.exists, List.mk_mem_zipIdx_iff_getElem?,
    Option.ite_none_right_eq_some, Option.some.injEq, Poll.mk.injEq, Poll.Due]
  constructor
  · intro polled
    obtain ⟨d', i', found, waits, rfl, rfl, rfl⟩ := polled
    exact ⟨rfl, found, waits⟩
  · intro polled
    obtain ⟨rfl, found, waits⟩ := polled
    exact ⟨d, i, found, waits, rfl, rfl, rfl⟩

theorem mem_allPolls : p ∈ allPolls registry ds ↔ p.Due registry ds := by
  simp only [allPolls, List.mem_flatMap, List.mem_range, mem_roundPolls]
  constructor
  · intro polled
    obtain ⟨_, _, _, due⟩ := polled
    exact due
  · intro due
    have bound : finishRound registry p.directive ≤ lastRound registry ds :=
      finishRound_le_lastRound (List.mem_of_getElem? due.1)
    have waits := due.2
    exact ⟨p.round, by omega, rfl, due⟩

theorem pairwise_zipIdx {α : Type} (xs : List α) : xs.zipIdx.Pairwise fun a b => a.2 < b.2 := by
  have positions : (xs.zipIdx.map (·.2)).Pairwise (· < ·) := by
    rw [List.zipIdx_map_snd]
    exact List.pairwise_lt_range'
  exact List.pairwise_map.mp positions

theorem nodup_zipIdx {α : Type} (xs : List α) : xs.zipIdx.Nodup := by
  refine (pairwise_zipIdx xs).imp fun before same => ?_
  rw [same] at before
  exact lt_irrefl _ before

theorem pairwise_allPolls : (allPolls registry ds).Pairwise fun p q => p.key < q.key := by
  refine List.pairwise_flatMap.mpr ⟨fun round _ => ?_, ?_⟩
  · refine List.pairwise_filterMap.mpr ((pairwise_zipIdx ds).imp fun {a b} before => ?_)
    intro p polled q polled'
    obtain ⟨_, same⟩ := Option.ite_none_right_eq_some.mp polled
    obtain ⟨_, same'⟩ := Option.ite_none_right_eq_some.mp polled'
    cases same
    cases same'
    exact Prod.Lex.toLex_lt_toLex.mpr (.inr ⟨rfl, before⟩)
  · refine List.pairwise_lt_range.imp fun {r r'} before p polled q polled' => ?_
    obtain ⟨rfl, _⟩ := mem_roundPolls.mp polled
    obtain ⟨rfl, _⟩ := mem_roundPolls.mp polled'
    exact Prod.Lex.toLex_lt_toLex.mpr (.inl before)

/-- Polls that are in order already are what sorting makes of them in any order. -/
theorem mergeSort_eq {unsorted : List Poll} (sorted : polls.Pairwise fun p q => p.key < q.key)
    (perm : unsorted.Perm polls) : unsorted.mergeSort Poll.notAfter = polls := by
  have transitive : ∀ p q r : Poll, p.notAfter q = true → q.notAfter r = true → p.notAfter r = true := by
    intro p q r first second
    simp only [Poll.notAfter, decide_eq_true_eq] at first second ⊢
    exact first.trans second
  have total : ∀ p q : Poll, (p.notAfter q || q.notAfter p) = true := by
    intro p q
    simpa [Poll.notAfter] using le_total p.key q.key
  have placed := (List.mergeSort_perm unsorted Poll.notAfter).trans perm
  refine placed.eq_of_pairwise ?_ ((List.pairwise_mergeSort transitive total unsorted).imp of_decide_eq_true)
    (sorted.imp le_of_lt)
  -- no two of the polls have the same key, so the order leaves no choice
  have distinct : (polls.map Poll.key).Nodup := List.pairwise_map.mpr (sorted.imp ne_of_lt)
  intro p q first second before after
  exact List.inj_on_of_nodup_map distinct (placed.mem_iff.mp first) second (le_antisymm before after)

theorem nodup_of_sorted (sorted : polls.Pairwise fun p q => p.key < q.key) : polls.Nodup := by
  refine sorted.imp fun {p q} before same => ?_
  rw [same] at before
  exact lt_irrefl _ before

theorem mem_pollsOf {turn : Directive × Nat} : p ∈ pollsOf registry turn ↔
    p.directive = turn.1 ∧ p.position = turn.2 ∧ p.round ≤ finishRound registry p.directive := by
  obtain ⟨d, i⟩ := turn
  obtain ⟨round, position, directive⟩ := p
  simp only [pollsOf, List.mem_map, List.mem_range, Poll.mk.injEq]
  constructor
  · rintro ⟨_, inTime, rfl, rfl, rfl⟩
    exact ⟨rfl, rfl, Nat.le_of_lt_succ inTime⟩
  · rintro ⟨rfl, rfl, inTime⟩
    exact ⟨round, Nat.lt_succ_of_le inTime, rfl, rfl, rfl⟩

theorem nodup_flatMap_pollsOf : (ds.zipIdx.flatMap (pollsOf registry)).Nodup := by
  refine List.nodup_flatMap.mpr ⟨fun turn _ => ?_, (pairwise_zipIdx ds).imp fun {a b} before p first second => ?_⟩
  · exact List.nodup_range.map fun _ _ same => congrArg Poll.round same
  · have position := (mem_pollsOf.mp first).2.1
    rw [(mem_pollsOf.mp second).2.1] at position
    exact before.ne position.symm

/-- A render makes its polls in the order of rounds and positions. -/
theorem pollOrder_eq_allPolls : pollOrder registry ds = allPolls registry ds := by
  refine mergeSort_eq pairwise_allPolls ?_
  refine (List.perm_ext_iff_of_nodup nodup_flatMap_pollsOf (nodup_of_sorted pairwise_allPolls)).mpr fun p => ?_
  rw [List.mem_flatMap, mem_allPolls]
  constructor
  · rintro ⟨turn, mem, polled⟩
    obtain ⟨directive, position, inTime⟩ := mem_pollsOf.mp polled
    refine ⟨?_, inTime⟩
    rw [directive, position]
    exact List.mem_zipIdx_iff_getElem?.mp mem
  · intro due
    exact ⟨(p.directive, p.position), List.mk_mem_zipIdx_iff_getElem?.mpr due.1, mem_pollsOf.mpr ⟨rfl, rfl, due.2⟩⟩

theorem pollOrder_singleton (registry : Registry) (d : Directive) :
    pollOrder registry [d] = pollsOf registry (d, 0) := by
  refine mergeSort_eq (List.pairwise_map.mpr (List.pairwise_lt_range.imp fun before => ?_)) ?_
  · exact Prod.Lex.toLex_lt_toLex.mpr (.inl before)
  · simp

/-- The directives are done in the order of their last polls. -/
theorem finishOrder_eq_filter :
    finishOrder registry ds = (allPolls registry ds).filter (·.IsLast registry) := by
  have sorted : ((allPolls registry ds).filter (·.IsLast registry)).Pairwise fun p q => p.key < q.key :=
    pairwise_allPolls.sublist List.filter_sublist
  have nodup : (ds.zipIdx.map (lastPoll registry)).Nodup :=
    (nodup_zipIdx ds).map fun a b same => Prod.ext (congrArg Poll.directive same) (congrArg Poll.position same)
  refine mergeSort_eq sorted ((List.perm_ext_iff_of_nodup nodup (nodup_of_sorted sorted)).mpr fun p => ?_)
  rw [List.mem_map, List.mem_filter, mem_allPolls, decide_eq_true_eq]
  constructor
  · rintro ⟨turn, mem, rfl⟩
    exact ⟨⟨List.mem_zipIdx_iff_getElem?.mp mem, le_rfl⟩, rfl⟩
  · rintro ⟨due, last⟩
    refine ⟨(p.directive, p.position), List.mk_mem_zipIdx_iff_getElem?.mpr due.1, ?_⟩
    rw [lastPoll, ← last]

theorem finishOrder_perm : (finishOrder registry ds).Perm (ds.zipIdx.map (lastPoll registry)) :=
  List.mergeSort_perm _ _

theorem pairwise_finishOrder : (finishOrder registry ds).Pairwise fun p q => p.key < q.key := by
  rw [finishOrder_eq_filter]
  exact pairwise_allPolls.sublist List.filter_sublist

/-- Polls that are left at some time of a render: none of them comes too late, and after the first
none is missing. -/
structure Schedule (registry : Registry) (ds : List Directive) (polls : List Poll) : Prop where
  sorted : polls.Pairwise fun p q => p.key < q.key
  due : ∀ p ∈ polls, p.Due registry ds
  complete : ∀ p ∈ polls, ∀ q : Poll, q.Due registry ds → p.key < q.key → q ∈ polls

namespace Schedule

variable {rest : List Poll}

theorem allPolls : Schedule registry ds (allPolls registry ds) where
  sorted := pairwise_allPolls
  due _ mem := mem_allPolls.mp mem
  complete _ _ _ due _ := mem_allPolls.mpr due

theorem tail (schedule : Schedule registry ds (p :: rest)) : Schedule registry ds rest where
  sorted := schedule.sorted.tail
  due q mem := schedule.due q (List.mem_cons_of_mem p mem)
  complete q mem r due before := by
    have first := List.rel_of_pairwise_cons schedule.sorted mem
    cases schedule.complete q (List.mem_cons_of_mem p mem) r due before with
    | head => exact absurd (first.trans before) (lt_irrefl _)
    | tail _ later => exact later

theorem not_again (schedule : Schedule registry ds (p :: rest)) (last : p.IsLast registry)
    (mem : q ∈ rest) : q.position ≠ p.position := by
  intro same
  have first := schedule.due p List.mem_cons_self
  have second := schedule.due q (List.mem_cons_of_mem p mem)
  have directive : q.directive = p.directive := by
    have found := second.1
    rw [same, first.1] at found
    exact (Option.some.inj found).symm
  have inTime := second.2
  rw [directive, ← last] at inTime
  have before := List.rel_of_pairwise_cons schedule.sorted mem
  cases Prod.Lex.toLex_lt_toLex.mp before with
  | inl earlier => exact absurd earlier (Nat.not_lt.mpr inTime)
  | inr earlier => exact absurd same.symm earlier.2.ne

theorem mem_filter_of_waits (schedule : Schedule registry ds (p :: rest)) (waits : ¬ p.IsLast registry) :
    lastPoll registry (p.directive, p.position) ∈ rest.filter (·.IsLast registry) := by
  obtain ⟨found, inTime⟩ := schedule.due p List.mem_cons_self
  have later : p.round < finishRound registry p.directive := Nat.lt_of_le_of_ne inTime waits
  have mem := schedule.complete p List.mem_cons_self (lastPoll registry (p.directive, p.position))
    ⟨found, le_rfl⟩ (Prod.Lex.toLex_lt_toLex.mpr (.inl later))
  cases List.mem_cons.mp mem with
  | inl same => exact absurd (congrArg Poll.round same).symm waits
  | inr mem => exact List.mem_filter.mpr ⟨mem, decide_eq_true rfl⟩

end Schedule

end PromptKit.Render
