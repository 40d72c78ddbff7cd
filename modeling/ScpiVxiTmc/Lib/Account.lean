import ScpiVxiTmc.Lib.Machine

set_option autoImplicit false

/- A plain account of a machine: what an input is to do, when it may come, and what
may come of it. A machine that keeps to it one step at a time does so on every run. -/
namespace Machine

structure Account (τ ι ω : Type) where
  after : τ → ι → τ
  Fits : τ → ι → Prop
  Answers : τ → ι → ω → Prop

namespace Account

variable {σ τ ι κ ω β : Type} (account : Account τ ι ω)

def FitsAll : τ → List ι → Prop
  | _, [] => True
  | plain, input :: rest => account.Fits plain input ∧ FitsAll (account.after plain input) rest

def AnswersAll : τ → List ι → List ω → Prop
  | _, [], outputs => outputs = []
  | plain, input :: rest, outputs => ∃ output others, outputs = output :: others ∧
      account.Answers plain input output ∧ AnswersAll (account.after plain input) rest others

/-- The machine keeps to the account, in the states that `R` relates. -/
def Kept (step : σ → κ → Option (ω × σ)) (name : ι → κ) (R : σ → τ → Prop) : Prop :=
  ∀ state plain input output next, R state plain → account.Fits plain input →
    step state (name input) = some (output, next) →
    account.Answers plain input output ∧ R next (account.after plain input)

variable {account} {step : σ → κ → Option (ω × σ)} {name : ι → κ} {R : σ → τ → Prop}

theorem Kept.exec (kept : account.Kept step name R) {state last : σ} {plain : τ}
    (related : R state plain) {inputs : List ι} (fits : account.FitsAll plain inputs)
    {outputs : List ω} (ran : Machine.exec step state (inputs.map name) = some (outputs, last)) :
    account.AnswersAll plain inputs outputs ∧ R last (inputs.foldl account.after plain) := by
  induction inputs generalizing state plain outputs with
  | nil =>
      obtain ⟨rfl, rfl⟩ := exec_nil_eq_some.mp ran
      exact ⟨rfl, related⟩
  | cons input rest ih =>
      obtain ⟨output, next, later, first, remaining, rfl⟩ := exec_cons_eq_some.mp ran
      obtain ⟨answers, relatedNext⟩ := kept state plain input output next related fits.1 first
      obtain ⟨others, relatedLast⟩ := ih relatedNext fits.2 remaining
      exact ⟨⟨output, later, rfl, answers, others⟩, relatedLast⟩

/-- What is lost at each of some inputs. -/
def losses (account : Account τ ι ω) (lost : τ → ι → List β) : τ → List ι → List (List β)
  | _, [] => []
  | plain, input :: rest =>
      lost plain input :: losses account lost (account.after plain input) rest

/-- In balance at every answer with what is lost there, in balance over all. -/
theorem AnswersAll.lossy_balance {held : τ → List β} {out : ω → List β} {into : ι → List β}
    (lost : τ → ι → List β)
    (each : ∀ plain input output, account.Answers plain input output →
      out output ++ lost plain input ++ held (account.after plain input) =
        held plain ++ into input)
    {plain : τ} {inputs : List ι} {outputs : List ω}
    (answers : account.AnswersAll plain inputs outputs) :
    (outputs.zipWith (fun output gone => out output ++ gone)
        (account.losses lost plain inputs)).flatten ++
      held (inputs.foldl account.after plain) = held plain ++ inputs.flatMap into := by
  induction inputs generalizing plain outputs with
  | nil =>
      cases answers
      exact (List.append_nil _).symm
  | cons input rest ih =>
      obtain ⟨output, others, rfl, first, later⟩ := answers
      rw [losses, List.zipWith_cons_cons, List.flatten_cons, List.append_assoc, List.foldl_cons,
        ih later, ← List.append_assoc, each plain input output first, List.append_assoc,
        List.flatMap_cons]

theorem AnswersAll.lossless {out : ω → List β} {plain : τ} {inputs : List ι}
    {outputs : List ω} (answers : account.AnswersAll plain inputs outputs) :
    outputs.zipWith (fun output gone => out output ++ gone)
      (account.losses (fun _ _ => []) plain inputs) = outputs.map out := by
  induction inputs generalizing plain outputs with
  | nil =>
      cases answers
      rfl
  | cons input rest ih =>
      obtain ⟨output, others, rfl, _, later⟩ := answers
      rw [losses, List.zipWith_cons_cons, ih later, List.append_nil, List.map_cons]

/-- In balance at every answer, in balance over all. -/
theorem AnswersAll.balance {held : τ → List β} {out : ω → List β} {into : ι → List β}
    (each : ∀ plain input output, account.Answers plain input output →
      out output ++ held (account.after plain input) = held plain ++ into input)
    {plain : τ} {inputs : List ι} {outputs : List ω}
    (answers : account.AnswersAll plain inputs outputs) :
    outputs.flatMap out ++ held (inputs.foldl account.after plain) =
      held plain ++ inputs.flatMap into := by
  have lossless : ∀ plain input output, account.Answers plain input output →
      out output ++ [] ++ held (account.after plain input) = held plain ++ into input := by
    intro plain input output answer
    rw [List.append_nil]
    exact each plain input output answer
  have balanced := answers.lossy_balance (fun _ _ => []) lossless
  rwa [answers.lossless, ← List.flatMap_def] at balanced

end Account

end Machine
