import PromptKit.Function.Registration
import PromptKit.Function.Sample
import PromptKit.Main
import PromptKit.Memory.Edit
import PromptKit.Template.Source
import PromptKit.Proofs.Template.Grammar
import PromptKit.Proofs.Template.Scan
import PromptKit.Proofs.Template.Reading
import PromptKit.Proofs.Template.Diagnosis
import PromptKit.Proofs.Template.Printing
import PromptKit.Proofs.Render.Order
import PromptKit.Proofs.Render.Polling
import PromptKit.Proofs.Render.Refinement
import PromptKit.Proofs.Render.Steps
import PromptKit.Proofs.Render.Cancellation
import PromptKit.Proofs.Render.Isolation
import PromptKit.Proofs.Render.Abort
import PromptKit.Proofs.Prompt.Visits
import PromptKit.Proofs.Prompt.Cancellation
import PromptKit.Proofs.Prompt.Scalars
import PromptKit.Proofs.Prompt.Accounting
import PromptKit.Proofs.Prompt.Offers
import PromptKit.Proofs.Prompt.Divergence
import PromptKit.Proofs.Text.Utf8
import PromptKit.Proofs.Prompt.Cuts
import PromptKit.Proofs.Prompt.Provision
import PromptKit.Proofs.Prompt.Threshold
import PromptKit.Proofs.Prompt.Lockstep
import PromptKit.Proofs.Function.Registration
import PromptKit.Proofs.Template.Reprinting
import PromptKit.Proofs.Render.Purity
import PromptKit.Proofs.Prompt.Deletion
import PromptKit.Proofs.Config.Faults
import PromptKit.Proofs.Memory.LastWriter
import PromptKit.Proofs.Prompt.Truncation
import PromptKit.Proofs.Command.Assignments
import PromptKit.Proofs.Decimal.Whole
import PromptKit.Proofs.Prompt.Removal
import PromptKit.Proofs.Prompt.FirstTokens
import PromptKit.Proofs.Template.Writable
import PromptKit.Proofs.Template.Concatenation
import PromptKit.Proofs.Template.Stretches
import PromptKit.Proofs.Render.Pointwise
import PromptKit.Proofs.Template.Static
import PromptKit.Proofs.Function.Arity
import PromptKit.Proofs.Render.Fallback
import PromptKit.Proofs.Function.Pattern
import PromptKit.Proofs.Prompt.ClaimedLength
import PromptKit.Proofs.Template.Scanner
import PromptKit.Proofs.Template.Gatherer
import PromptKit.Proofs.Template.Quoting
import PromptKit.Proofs.Tokenizer
