/-!
Finding a character or a run of characters, and replacing a run. Main statement: a text splits at the
first of a character into what has none and what comes after it.
-/
namespace PromptKit.Text

def splitFirst (mark : Char) : List Char → List Char × Option (List Char)
  | [] => ([], none)
  | c :: rest =>
    if c = mark then ([], some rest)
    else (c :: (splitFirst mark rest).1, (splitFirst mark rest).2)

theorem splitFirst_eq_some_iff {mark : Char} {cs before after : List Char} :
    splitFirst mark cs = (before, some after) ↔ mark ∉ before ∧ cs = before ++ mark :: after := by
  induction cs generalizing before with
  | nil => simp [splitFirst]
  | cons c rest ih =>
    by_cases same : c = mark
    · subst same
      cases before with
      | nil => simp [splitFirst]
      | cons b bs =>
        simp only [splitFirst, if_true, Prod.mk.injEq, reduceCtorEq, false_and, false_iff, not_and]
        intro absent equal
        exact absent (by simp [(List.cons.inj equal).1])
    · cases before with
      | nil => simp [splitFirst, same]
      | cons b bs =>
        have split := @ih bs
        rw [Prod.ext_iff] at split
        simp only [splitFirst, same, if_false, Prod.mk.injEq, List.cons.injEq, and_assoc,
          List.mem_cons, not_or, List.cons_append] at split ⊢
        rw [split]
        constructor
        · rintro ⟨rfl, absent, rfl⟩
          exact ⟨fun h => same h.symm, absent, rfl, rfl⟩
        · rintro ⟨_, absent, rfl, rfl⟩
          exact ⟨rfl, absent, rfl⟩

theorem splitFirst_eq_none_iff {mark : Char} {cs before : List Char} :
    splitFirst mark cs = (before, none) ↔ mark ∉ cs ∧ before = cs := by
  induction cs generalizing before with
  | nil => simp [splitFirst, eq_comm]
  | cons c rest ih =>
    by_cases same : c = mark
    · simp [splitFirst, same]
    · cases before with
      | nil => simp [splitFirst, same]
      | cons b bs =>
        have split := @ih bs
        rw [Prod.ext_iff] at split
        simp only [splitFirst, same, if_false, Prod.mk.injEq, List.cons.injEq, and_assoc,
          List.mem_cons, not_or] at split ⊢
        rw [split]
        constructor
        · rintro ⟨rfl, absent, rfl⟩
          exact ⟨fun h => same h.symm, absent, rfl, rfl⟩
        · rintro ⟨_, absent, rfl, rfl⟩
          exact ⟨rfl, absent, rfl⟩

def occursIn (needle : List Char) : List Char → Bool
  | [] => needle.isEmpty
  | c :: rest => needle.isPrefixOf (c :: rest) || occursIn needle rest

theorem occursIn_iff {needle cs : List Char} : occursIn needle cs = true ↔ needle <:+: cs := by
  induction cs with
  | nil => simp [occursIn]
  | cons c rest ih =>
    rw [occursIn, Bool.or_eq_true, List.isPrefixOf_iff_prefix, ih, List.infix_cons_iff]

/-- Replaces occurrences from the left; each of the `skip` next characters belongs to the
occurrence that was just replaced. The needle is not empty. -/
def replaceFrom (needle by' : List Char) (skip : Nat) : List Char → List Char
  | [] => []
  | c :: rest =>
    if 0 < skip then replaceFrom needle by' (skip - 1) rest
    else if needle.isPrefixOf (c :: rest) then
      by' ++ replaceFrom needle by' (needle.length - 1) rest
    else c :: replaceFrom needle by' 0 rest

section Replacing

variable {needle by' rest : List Char} {c : Char}

theorem replaceFrom_of_absent (absent : ¬ needle <+: c :: rest) :
    replaceFrom needle by' 0 (c :: rest) = c :: replaceFrom needle by' 0 rest := by
  have differs : ¬ needle.isPrefixOf (c :: rest) = true := by rwa [List.isPrefixOf_iff_prefix]
  rw [replaceFrom, if_neg (Nat.lt_irrefl 0), if_neg differs]

theorem replaceFrom_skip (cs rest : List Char) :
    replaceFrom needle by' cs.length (cs ++ rest) = replaceFrom needle by' 0 rest := by
  induction cs with
  | nil => rfl
  | cons c cs ih =>
    rw [List.cons_append, List.length_cons, replaceFrom, if_pos (Nat.zero_lt_succ _), Nat.add_sub_cancel, ih]

theorem replaceFrom_needle (filled : needle ≠ []) (rest : List Char) :
    replaceFrom needle by' 0 (needle ++ rest) = by' ++ replaceFrom needle by' 0 rest := by
  cases needle with
  | nil => contradiction
  | cons c cs =>
    have here : (c :: cs).isPrefixOf (c :: (cs ++ rest)) = true := by
      rw [List.isPrefixOf_iff_prefix]
      exact List.prefix_append (c :: cs) rest
    rw [List.cons_append, replaceFrom, if_neg (Nat.lt_irrefl 0), if_pos here, List.length_cons,
      Nat.add_sub_cancel, replaceFrom_skip]

end Replacing

/-- Every occurrence from left to right, none overlapping the one before. An empty needle stands
before each character and at the end. -/
def replaceChars (needle by' cs : List Char) : List Char :=
  if needle.isEmpty then by' ++ cs.flatMap (· :: by') else replaceFrom needle by' 0 cs

def contains (s needle : String) : Bool := occursIn needle.toList s.toList

def startsWith (s lead : String) : Bool := lead.toList.isPrefixOf s.toList

def endsWith (s tail : String) : Bool := tail.toList.isSuffixOf s.toList

def replace (s needle by' : String) : String :=
  String.ofList (replaceChars needle.toList by'.toList s.toList)

end PromptKit.Text
