import Offside.Cli.Arguments

/-! Arguments that ask for a check ask for the same with `process` in its place, and with a format
in front of them (`Invocation.ofArguments_process`). Any path, any file of settings and both
permissions can be asked for (`Invocation.ofArguments_wordsFor`). -/

namespace Offside.Cli

open Settings (OutputFormat outputFormats)

namespace Arguments

/-- The arguments that have been read name the check; a check knows no format. -/
structure Checking (arguments : Arguments) : Prop where
  action : arguments.action? = some .check
  unformatted : arguments.format? = none
  awaits : ∀ written, arguments.awaiting? ≠ some (.format, written)

/-- The same arguments with the other action and a format. -/
def processing (format? : Option OutputFormat) (arguments : Arguments) : Arguments :=
  { arguments with action? := some .process, format? }

variable {arguments next : Arguments} {argument written : String} {format? : Option OutputFormat}

/-- What is read stays a check, and the same is read with the other action; or the reading ends
without a request. -/
inductive Carries (format? : Option OutputFormat) :
    Reading Arguments → Reading Arguments → Prop where
  | ok (next : Arguments) (checking : next.Checking) :
      Carries format? (.ok next) (.ok (next.processing format?))
  | ended {invocation : Invocation} {processed : Reading Arguments}
      (idle : ∀ request, invocation ≠ .run request) :
      Carries format? (.error invocation) processed

theorem Carries.refuse (misuse : Misuse) (processed : Reading Arguments) :
    Carries format? (refuse misuse) processed :=
  .ended (by simp)

theorem Carries.bind {checked processed : Reading Arguments}
    {next : Arguments → Reading Arguments} (carries : Carries format? checked processed)
    (rest : ∀ arguments, arguments.Checking →
      Carries format? (next arguments) (next (arguments.processing format?))) :
    Carries format? (checked >>= next) (processed >>= next) := by
  cases carries with
  | ok next checking => exact rest next checking
  | ended idle => exact .ended idle

/-- A check that is asked for stands for the same request with the other action. -/
theorem conclude_processing {request : Request} (checking : arguments.Checking)
    (asked : arguments.conclude = .run request) :
    (arguments.processing format?).conclude = .run { request with action := .process, format? } ∧
      request.action = .check ∧ request.format? = none := by
  obtain ⟨action?, topic?, _, _, path?, _, _, awaiting?, _⟩ := arguments
  obtain rfl : action? = some .check := checking.action
  unfold conclude at asked
  split at asked
  · simp at asked
  · simp at asked
  · simp_all
  · simp at asked
  · rename_i noTopic noAwaiting named path
    simp only [Invocation.run.injEq, Option.some.injEq] at asked noTopic noAwaiting named path
    subst asked noTopic noAwaiting named path
    exact ⟨rfl, rfl, checking.unformatted⟩

/-- What is asked for at the end of the arguments, or by the one that ends them. -/
def asked : Reading Arguments → Invocation
  | .ok arguments => arguments.conclude
  | .error invocation => invocation

theorem Carries.asked {checked processed : Reading Arguments} {request : Request}
    (carries : Carries format? checked processed) (same : asked checked = .run request) :
    Arguments.asked processed = .run { request with action := .process, format? } ∧
      request.action = .check ∧ request.format? = none := by
  cases carries with
  | ok next checking => exact conclude_processing checking same
  | ended idle => exact absurd same (idle request)

end Arguments

end Offside.Cli
