import HostOverlay.Overlay.Capability
import HostOverlay.Proofs.Host.Request

/-!
# Questions as data, and what they make the parties do

A host is asked eight kinds of questions.  Here a question is a value, a `Query`, so that one can
speak of a sequence of them: `Host.ask` puts a question to a host, and a `Step` is either a question
or an arbitrary change of the world between two questions.

To see which calls a question leads to, the parties underneath a layer are replaced by ones that
write down each call together with its answer.  `Host.recorded`, `Storage.recorded` and
`Synthesizer.recorded` do this in a world that carries the calls beside the original world; apart
from that they answer as before.  `exchanges` runs a host over such parties and gives, for each
question of the run, the `Exchange` it amounted to.
-/

set_option autoImplicit false

namespace HostOverlay

variable {σ α : Type}

/-! ## Questions -/

/-- A question to a host. -/
inductive Query where
  | currentDirectory
  | scriptFileNames
  | scriptVersion (path : String)
  | scriptKind (path : String)
  | scriptSnapshot (path : String)
  | resolveModuleNames (specifiers : List Specifier) (containing : String)
      (options : ResolutionOptions)
  | fileExists (path : String)
  | fileContent (path : String)
  deriving DecidableEq

/-- The answers to a question; to some of them, a failure is one. -/
abbrev Query.Answer : Query → Type
  | .currentDirectory => String
  | .scriptFileNames => List String
  | .scriptVersion _ => String
  | .scriptKind _ => ScriptKind
  | .scriptSnapshot _ => Except Error (Option Snapshot)
  | .resolveModuleNames _ _ _ => Except Error (List Resolution)
  | .fileExists _ => Bool
  | .fileContent _ => Except Error (Option String)

/-- Put a question to a host. -/
def Host.ask (h : Host σ) : (q : Query) → StateM σ q.Answer
  | .currentDirectory => h.currentDirectory
  | .scriptFileNames => h.scriptFileNames
  | .scriptVersion path => h.scriptVersion path
  | .scriptKind path => h.scriptKind path
  | .scriptSnapshot path => (h.scriptSnapshot path).run
  | .resolveModuleNames specifiers containing options =>
    (h.resolveModuleNames specifiers containing options).run
  | .fileExists path => h.fileExists path
  | .fileContent path => (h.fileContent path).run

/-! ## Recording -/

/-- A call to one of the parties, with its answer. -/
inductive Call where
  | host (q : Query) (answer : q.Answer)
  | storage (path : String) (answer : Except IoError Bool)
  | synthesizer (path : String) (answer : Except Error Snapshot)

namespace Call

/-- The question, for a call to the host. -/
def query? : Call → Option Query
  | host q _ => some q
  | _ => none

/-- The path, for a call to storage. -/
def storagePath? : Call → Option String
  | storage path _ => some path
  | _ => none

end Call

/-- A world with the calls made so far. -/
structure Recorded (σ : Type) where
  world : σ
  calls : List Call

instance [Traced σ] : Traced (Recorded σ) where
  emit d r := { r with world := Traced.emit d r.world }

/-- Do `x`, and write down a call that got the answer of `x`. -/
def recording (call : α → Call) (x : StateM σ α) : StateM (Recorded σ) α := fun r ↦
  ((x r.world).1, ⟨(x r.world).2, r.calls ++ [call (x r.world).1]⟩)

/-- The host `h`, with each question to it written down. -/
def Host.recorded (h : Host σ) : Host (Recorded σ) where
  currentDirectory := recording (.host .currentDirectory) h.currentDirectory
  scriptFileNames := recording (.host .scriptFileNames) h.scriptFileNames
  scriptVersion path := recording (.host (.scriptVersion path)) (h.scriptVersion path)
  scriptKind path := recording (.host (.scriptKind path)) (h.scriptKind path)
  scriptSnapshot path :=
    ExceptT.mk (recording (.host (.scriptSnapshot path)) (h.scriptSnapshot path).run)
  resolveModuleNames specifiers containing options :=
    ExceptT.mk (recording (.host (.resolveModuleNames specifiers containing options))
      (h.resolveModuleNames specifiers containing options).run)
  fileExists path := recording (.host (.fileExists path)) (h.fileExists path)
  fileContent path := ExceptT.mk (recording (.host (.fileContent path)) (h.fileContent path).run)

/-- The storage `s`, with each question to it written down. -/
def Storage.recorded (s : Storage σ) : Storage (Recorded σ) where
  present path := recording (.storage path) (s.present path)

/-- The synthesizer `s`, with each question to it written down. -/
def Synthesizer.recorded (s : Synthesizer σ) : Synthesizer (Recorded σ) where
  synthesize path := ExceptT.mk (recording (.synthesizer path) (s.synthesize path).run)

theorem recording_run {call : α → Call} {x : StateM σ α} {w w' : σ} {a : α} (h : x w = (a, w'))
    (calls : List Call) : recording call x ⟨w, calls⟩ = (a, ⟨w', calls ++ [call a]⟩) := by
  simp only [recording, h]

theorem Host.ask_recorded (h : Host σ) (q : Query) :
    h.recorded.ask q = recording (.host q) (h.ask q) := by
  cases q <;> rfl

/-! ## Runs -/

/-- What may happen next in a run. -/
inductive Step (σ : Type) where
  | ask (q : Query)
  /-- The world changes by itself. -/
  | change (f : σ → σ)

/-- The question that is asked in a step. -/
def Step.query? : Step σ → Option Query
  | ask q => some q
  | change _ => none

/-- A question of a run: what was asked and answered, in which world, which calls to the parties
this has led to, in their order, and the world afterwards. -/
structure Exchange (σ : Type) where
  before : σ
  query : Query
  answer : query.Answer
  calls : List Call
  after : σ

/-- Put one question to a host over recorded parties. -/
def exchange (h : Host (Recorded σ)) (q : Query) (w : σ) : Exchange σ :=
  let (answer, r) := h.ask q ⟨w, []⟩
  ⟨w, q, answer, r.calls, r.world⟩

/-- The exchanges that the steps lead to, from the world `w` on. -/
def exchanges (h : Host (Recorded σ)) : List (Step σ) → σ → List (Exchange σ)
  | [], _ => []
  | .ask q :: steps, w =>
    exchange h q w :: exchanges h steps (exchange h q w).after
  | .change f :: steps, w => exchanges h steps (f w)

section

variable (h : Host (Recorded σ)) (steps : List (Step σ)) (w : σ)

theorem exchange_eq {q : Query} {w w' : σ} {a : q.Answer} {calls : List Call}
    (hask : h.ask q ⟨w, []⟩ = (a, ⟨w', calls⟩)) : exchange h q w = ⟨w, q, a, calls, w'⟩ := by
  simp only [exchange, hask]

/-- A run has one exchange for each question, in order. -/
theorem map_query_exchanges :
    (exchanges h steps w).map Exchange.query = steps.filterMap Step.query? := by
  induction steps generalizing w with
  | nil => rfl
  | cons s steps ih =>
    cases s with
    | ask q => exact congrArg (q :: ·) (ih _)
    | change f => exact ih _

/-- **What holds of every exchange holds along every run.** -/
theorem forall_mem_exchanges {P : Exchange σ → Prop} (hP : ∀ q w, P (exchange h q w)) :
    ∀ e ∈ exchanges h steps w, P e := by
  induction steps generalizing w with
  | nil => simp [exchanges]
  | cons s steps ih =>
    cases s with
    | ask q =>
      intro e he
      obtain rfl | he := List.mem_cons.1 he
      · exact hP q w
      · exact ih _ e he
    | change f => exact ih _

end

end HostOverlay
