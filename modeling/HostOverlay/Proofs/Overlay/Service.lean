import HostOverlay.Overlay.Basic
import HostOverlay.Proofs.Host.Request
import HostOverlay.Workbench.Host
import HostOverlay.Workbench.Service
import Mathlib.Data.List.Basic

/-!
# Runs of the layer over a service

A service is asked three kinds of questions, and the layer answers one of them itself: where a
definition is.  It does three things for that, in this order.  It asks the resolver for the file
that definitions lead to, which may be another one each time, writes a line about it, and asks the
resolver for the definitions.  So the line is there also when the resolver then fails.

As for hosts, a question is a value, here an `Inquiry`, and the parties are replaced by ones that
write down what the layer has them do.  Each such deed is an `Act`: a question to the resolver, a
line for the log of the project or a question to the service underneath.

The parties may write to the log as well.  `Shows` says of a part of the log, all of it if the
parties are silent, that nobody but the layer adds to it.

* `Handled` says what a question may amount to, with one constructor for definitions and one for all
  other questions.
* `handled_consult` is the step: every question amounts to one of these, in every world.
* `lines_of_handled` and `inquiries_of_handled` are about rows of questions.
* `log_play` is about what a run leaves in the log, and `consultations_redirected` about runs.
-/

set_option autoImplicit false

namespace HostOverlay

variable {σ α : Type}

/-! ## Questions -/

/-- A question to a service. -/
inductive Inquiry where
  | definition (file : String) (position : Nat)
  | quickInfo (file : String) (position : Nat)
  | programFileNames
  deriving DecidableEq

namespace Inquiry

/-- The answers to a question; a failure is one of them. -/
abbrev Answer : Inquiry → Type
  | definition _ _ => Except Error (Option DefinitionAnswer)
  | quickInfo _ _ => Except Error (Option QuickInfo)
  | programFileNames => Except Error (List String)

/-- Does the question ask where a definition is? -/
def isDefinition : Inquiry → Bool
  | definition _ _ => true
  | _ => false

end Inquiry

/-- Put a question to a service. -/
def Service.ask (s : Service σ) : (q : Inquiry) → StateM σ q.Answer
  | .definition file position => (s.definition file position).run
  | .quickInfo file position => (s.quickInfo file position).run
  | .programFileNames => s.programFileNames.run

/-! ## Acts -/

/-- Something that one of the parties is made to do, with the answer that it gives. -/
inductive Act where
  | target (path : String)
  | log (line : String)
  | resolve (file : String) (position : Nat) (answer : Except Error DefinitionAnswer)
  | consult (q : Inquiry) (answer : q.Answer)

namespace Act

/-- The line, for one that goes to the log. -/
def line? : Act → Option String
  | log line => some line
  | _ => none

/-- The question, for one that the service underneath is asked. -/
def inquiry? : Act → Option Inquiry
  | consult q _ => some q
  | _ => none

end Act

/-- A world with what the parties have been made to do so far. -/
structure Transcribed (σ : Type) where
  world : σ
  acts : List Act

/-- Do `x`, and write down an act that got the answer of `x`. -/
def transcribing (act : α → Act) (x : StateM σ α) : StateM (Transcribed σ) α := fun t ↦
  ((x t.world).1, ⟨(x t.world).2, t.acts ++ [act (x t.world).1]⟩)

theorem transcribing_run (act : α → Act) {x : StateM σ α} {w w' : σ} {a : α} (h : x w = (a, w'))
    (acts : List Act) : transcribing act x ⟨w, acts⟩ = (a, ⟨w', acts ++ [act a]⟩) := by
  simp only [transcribing, h]

/-- The service `s`, with each question to it written down. -/
def Service.transcribed (s : Service σ) : Service (Transcribed σ) where
  definition file position :=
    ExceptT.mk
      (transcribing (.consult (.definition file position)) (s.definition file position).run)
  quickInfo file position :=
    ExceptT.mk (transcribing (.consult (.quickInfo file position)) (s.quickInfo file position).run)
  programFileNames := ExceptT.mk (transcribing (.consult .programFileNames) s.programFileNames.run)

/-- The context `c`, with each line for its log written down. -/
def Context.transcribed (c : Context σ) : Context (Transcribed σ) where
  root := c.root
  logger line := transcribing (fun _ ↦ .log line) (c.logger line)

/-- The resolver `r` for a project with the given logger, with each question to it written down. -/
def DefinitionResolver.transcribed (r : DefinitionResolver σ) (logger : Logger σ) :
    DefinitionResolver (Transcribed σ) where
  canonicalPath c := transcribing .target (r.canonicalPath ⟨c.root, logger⟩)
  resolve c file position :=
    ExceptT.mk
      (transcribing (.resolve file position) (r.resolve ⟨c.root, logger⟩ file position).run)

theorem Service.ask_transcribed (s : Service σ) (q : Inquiry) :
    s.transcribed.ask q = transcribing (.consult q) (s.ask q) := by
  cases q <;> rfl

/-! ## Runs -/

/-- What may happen next in a run. -/
inductive Turn (σ : Type) where
  | ask (q : Inquiry)
  /-- The world changes by itself. -/
  | change (f : σ → σ)

/-- The question that is asked in a turn. -/
def Turn.inquiry? : Turn σ → Option Inquiry
  | ask q => some q
  | change _ => none

/-- A question of a run: what was asked and answered, in which world, what the parties were made to
do, in order, and the world afterwards. -/
structure Consultation (σ : Type) where
  before : σ
  inquiry : Inquiry
  answer : inquiry.Answer
  acts : List Act
  after : σ

/-- The answer, when it says where a definition is. -/
def Consultation.definition? : Consultation σ → Option (Except Error (Option DefinitionAnswer))
  | ⟨_, .definition _ _, answer, _, _⟩ => some answer
  | _ => none

/-- Put one question to a service over transcribed parties. -/
def consult (s : Service (Transcribed σ)) (q : Inquiry) (w : σ) : Consultation σ :=
  let (answer, t) := s.ask q ⟨w, []⟩
  ⟨w, q, answer, t.acts, t.world⟩

/-- The consultations that the turns lead to, from the world `w` on. -/
def consultations (s : Service (Transcribed σ)) : List (Turn σ) → σ → List (Consultation σ)
  | [], _ => []
  | .ask q :: turns, w => consult s q w :: consultations s turns (consult s q w).after
  | .change f :: turns, w => consultations s turns (f w)

section

variable (s : Service (Transcribed σ)) (turns : List (Turn σ)) (w : σ)

theorem consult_eq {q : Inquiry} {w w' : σ} {a : q.Answer} {acts : List Act}
    (hask : s.ask q ⟨w, []⟩ = (a, ⟨w', acts⟩)) : consult s q w = ⟨w, q, a, acts, w'⟩ := by
  simp only [consult, hask]

/-- A run has one consultation for each question, in order. -/
theorem map_inquiry_consultations :
    (consultations s turns w).map Consultation.inquiry = turns.filterMap Turn.inquiry? := by
  induction turns generalizing w with
  | nil => rfl
  | cons t turns ih =>
    cases t with
    | ask q => exact congrArg (q :: ·) (ih _)
    | change f => exact ih _

/-- What holds of every consultation holds along every run. -/
theorem forall_mem_consultations {P : Consultation σ → Prop} (hP : ∀ q w, P (consult s q w)) :
    ∀ e ∈ consultations s turns w, P e := by
  induction turns generalizing w with
  | nil => simp [consultations]
  | cons t turns ih =>
    cases t with
    | ask q =>
      intro e he
      obtain rfl | he := List.mem_cons.1 he
      · exact hP q w
      · exact ih _ e he
    | change f => exact ih _

end

namespace Overlay

/-! ## A single question -/

section

variable (inner : Service σ) (context : Context σ) (resolver : DefinitionResolver σ)

/-- What a question to the layer may amount to.  Each constructor gives the whole consultation. -/
inductive Handled : Consultation σ → Prop
  /-- The resolver names a file, a line about it is written, and then the resolver is asked, whose
  result or failure is the answer. -/
  | redirected {file path : String} {position : Nat} {w w₁ w₂ w₃ : σ}
      {a : Except Error DefinitionAnswer} (hpath : resolver.canonicalPath context w = (path, w₁))
      (hline : context.logger (definitionLine path) w₁ = ((), w₂))
      (ha : (resolver.resolve context file position).run w₂ = (a, w₃)) :
      Handled ⟨w, .definition file position, some <$> a,
        [.target path, .log (definitionLine path), .resolve file position a], w₃⟩
  /-- The service underneath answers. -/
  | forwarded {q : Inquiry} {w w' : σ} {a : q.Answer} (h : q.isDefinition = false)
      (hask : inner.ask q w = (a, w')) : Handled ⟨w, q, a, [.consult q a], w'⟩

variable {inner context resolver}

/-- A question about a definition makes the layer write a line and ask the resolver. -/
theorem ask_definition {file path : String} {position : Nat} {w w₁ w₂ w₃ : σ}
    {a : Except Error DefinitionAnswer} (hpath : resolver.canonicalPath context w = (path, w₁))
    (hline : context.logger (definitionLine path) w₁ = ((), w₂))
    (ha : (resolver.resolve context file position).run w₂ = (a, w₃)) :
    (service inner context resolver).ask (.definition file position) w = (some <$> a, w₃) := by
  refine (run_bind_of_ok _ (Request.run_liftM hpath)).trans ?_
  exact (run_bind_of_ok _ (Request.run_liftM hline)).trans (Request.run_map ha)

/-- Every other question goes to the service underneath. -/
theorem ask_of_not_isDefinition {q : Inquiry} (h : q.isDefinition = false) :
    (service inner context resolver).ask q = inner.ask q := by
  cases q with
  | definition file position => cases h
  | quickInfo file position => rfl
  | programFileNames => rfl

variable (inner context resolver)

/-- **Every question amounts to one of the two**, whatever the world is like when it is asked. -/
theorem handled_consult (q : Inquiry) (w : σ) :
    Handled inner context resolver
      (consult (service inner.transcribed context.transcribed
        (resolver.transcribed context.logger)) q w) := by
  cases hq : q.isDefinition with
  | false =>
    rcases hask : inner.ask q w with ⟨a, w'⟩
    have hask' : inner.transcribed.ask q ⟨w, []⟩ = (a, ⟨w', [.consult q a]⟩) := by
      rw [Service.ask_transcribed]
      exact transcribing_run _ hask []
    have hconsult : (service inner.transcribed context.transcribed
        (resolver.transcribed context.logger)).ask q ⟨w, []⟩ = (a, ⟨w', [.consult q a]⟩) := by
      rw [ask_of_not_isDefinition hq, hask']
    rw [consult_eq _ hconsult]
    exact .forwarded hq hask
  | true =>
    cases q with
    | definition file position =>
      rcases hpath : resolver.canonicalPath context w with ⟨path, w₁⟩
      rcases hline : context.logger (definitionLine path) w₁ with ⟨⟨⟩, w₂⟩
      rcases ha : (resolver.resolve context file position).run w₂ with ⟨a, w₃⟩
      have hpath' : (resolver.transcribed context.logger).canonicalPath context.transcribed
          ⟨w, []⟩ = (path, ⟨w₁, [.target path]⟩) := transcribing_run .target hpath []
      have hline' : context.transcribed.logger (definitionLine path) ⟨w₁, [.target path]⟩ =
          ((), ⟨w₂, [.target path, .log (definitionLine path)]⟩) :=
        transcribing_run (fun _ ↦ .log (definitionLine path)) hline _
      have ha' : ((resolver.transcribed context.logger).resolve context.transcribed file
          position).run ⟨w₂, [.target path, .log (definitionLine path)]⟩ =
            (a, ⟨w₃, [.target path, .log (definitionLine path), .resolve file position a]⟩) :=
        transcribing_run _ ha _
      rw [consult_eq _ (ask_definition hpath' hline' ha')]
      exact .redirected hpath hline ha
    | _ => cases hq

end

namespace Handled

variable {inner : Service σ} {context : Context σ} {resolver : DefinitionResolver σ}
  {e : Consultation σ}

/-- The plain layer answers the same and leaves the same world. -/
theorem ask (h : Handled inner context resolver e) :
    (service inner context resolver).ask e.inquiry e.before = (e.answer, e.after) := by
  cases h with
  | redirected hpath hline ha => exact ask_definition hpath hline ha
  | forwarded h hask => rw [ask_of_not_isDefinition h, hask]

/-- One line is written about a definition, on the file that the resolver names then, and none about
anything else. -/
theorem lines (h : Handled inner context resolver e) :
    e.acts.filterMap Act.line? =
      if e.inquiry.isDefinition then [definitionLine (resolver.canonicalPath context e.before).1]
      else [] := by
  cases h with
  | redirected hpath hline ha =>
    rw [hpath]
    rfl
  | forwarded h hask => simp [Act.line?, h]

/-- The service underneath is asked the same question once, unless it is about a definition. -/
theorem inquiries (h : Handled inner context resolver e) :
    e.acts.filterMap Act.inquiry? = if e.inquiry.isDefinition then [] else [e.inquiry] := by
  cases h with
  | redirected hpath hline ha => rfl
  | forwarded h hask => simp [Act.inquiry?, h]

/-- What the fixed resolver answers does not depend on what is asked. -/
theorem definition_of_fixed {file : String}
    (h : Handled inner context (.fixed file) e) {a : Except Error (Option DefinitionAnswer)}
    (ha : e.definition? = some a) :
    a = .ok (some ⟨[DefinitionResolver.fixedDefinition (DefinitionResolver.pathIn file context)],
      ⟨0, 0⟩⟩) := by
  cases h with
  | redirected hpath hline hresolve =>
    obtain rfl := Option.some.inj ha
    obtain ⟨rfl, -⟩ := Prod.mk.inj hresolve
    rfl
  | @forwarded q w w' a h hask =>
    cases q with
    | definition file position => cases h
    | _ => cases ha

end Handled

/-! ## Runs -/

section

variable {inner : Service σ} {context : Context σ} {resolver : DefinitionResolver σ}
  {es : List (Consultation σ)} (h : ∀ e ∈ es, Handled inner context resolver e)

include h

/-- The lines that a row of questions leaves in the log. -/
theorem lines_of_handled :
    (es.flatMap Consultation.acts).filterMap Act.line? =
      (es.filter fun e ↦ e.inquiry.isDefinition).map
        fun e ↦ definitionLine (resolver.canonicalPath context e.before).1 := by
  induction es with
  | nil => rfl
  | cons e es ih =>
    rw [List.flatMap_cons, List.filterMap_append, (h e List.mem_cons_self).lines,
      ih fun e he ↦ h e (List.mem_cons_of_mem _ he), List.filter_cons]
    cases e.inquiry.isDefinition with
    | true => rfl
    | false => rfl

/-- The questions of a row that reach the service underneath. -/
theorem inquiries_of_handled :
    (es.flatMap Consultation.acts).filterMap Act.inquiry? =
      (es.map Consultation.inquiry).filter fun q ↦ !q.isDefinition := by
  induction es with
  | nil => rfl
  | cons e es ih =>
    rw [List.flatMap_cons, List.filterMap_append, (h e List.mem_cons_self).inquiries,
      ih fun e he ↦ h e (List.mem_cons_of_mem _ he), List.map_cons, List.filter_cons]
    cases e.inquiry.isDefinition with
    | true => rfl
    | false => rfl

end

/-! ## The log of the host -/

end Overlay

/-- The world after the turns. -/
def Service.play (s : Service σ) : List (Turn σ) → σ → σ
  | [], w => w
  | .ask q :: turns, w => s.play turns (s.ask q w).2
  | .change f :: turns, w => s.play turns (f w)

namespace Overlay

/-- In every world `log` shows a part of the log of the project, to which nobody adds but the
layer. -/
structure Shows (inner : Service σ) (context : Context σ) (resolver : DefinitionResolver σ)
    (turns : List (Turn σ)) (log : σ → List String) : Prop where
  logger : ∀ path w,
    log (context.logger (definitionLine path) w).2 = log w ++ [definitionLine path]
  canonicalPath : ∀ w, log (resolver.canonicalPath context w).2 = log w
  resolve : ∀ file position w, log ((resolver.resolve context file position).run w).2 = log w
  inner : ∀ q w, log (inner.ask q w).2 = log w
  change : ∀ f, .change f ∈ turns → ∀ w, log (f w) = log w

section

variable {inner : Service σ} {context : Context σ} {resolver : DefinitionResolver σ}
  {log : σ → List String}

/-- What a question adds to the log are the lines that the layer writes for it. -/
theorem Handled.log_after {turns : List (Turn σ)} (hlog : Shows inner context resolver turns log)
    {e : Consultation σ} (h : Handled inner context resolver e) :
    log e.after = log e.before ++ e.acts.filterMap Act.line? := by
  cases h with
  | @redirected file path position w w₁ w₂ w₃ a hpath hline ha =>
    have hfirst := hlog.canonicalPath w
    have hsecond := hlog.logger path w₁
    have hthird := hlog.resolve file position w₂
    rw [hpath] at hfirst
    rw [hline] at hsecond
    rw [ha] at hthird
    calc log w₃ = log w₂ := hthird
      _ = log w₁ ++ [definitionLine path] := hsecond
      _ = log w ++ [definitionLine path] := by rw [hfirst]
  | @forwarded q w w' a h hask =>
    have hkept := hlog.inner q w
    rw [hask] at hkept
    exact hkept.trans (List.append_nil _).symm

/-- **What a run adds to the log** are the lines that the layer writes, in their order. -/
theorem log_play {turns : List (Turn σ)} (hlog : Shows inner context resolver turns log) (w : σ) :
    log ((service inner context resolver).play turns w) = log w ++
      ((consultations (service inner.transcribed context.transcribed
        (resolver.transcribed context.logger)) turns w).flatMap
          Consultation.acts).filterMap Act.line? := by
  induction turns generalizing w with
  | nil => exact (List.append_nil _).symm
  | cons t turns ih =>
    have hrest : Shows inner context resolver turns log :=
      { hlog with change := fun f hf ↦ hlog.change f (List.mem_cons_of_mem _ hf) }
    cases t with
    | ask q =>
      have hstep := handled_consult inner context resolver q w
      have hafter : (service inner context resolver).ask q w = (_, _) := hstep.ask
      have hgain : log _ = log w ++ _ := hstep.log_after hlog
      rw [Service.play, hafter, ih hrest, consultations, List.flatMap_cons, List.filterMap_append,
        hgain, List.append_assoc]
    | change f =>
      rw [Service.play, ih hrest, consultations, hlog.change f List.mem_cons_self]

end

/-! ## The statement about runs -/

/-- **Definitions never reach the service underneath, and leave one line each.**  Take any service,
context and resolver, and any run of questions with the world changing in between.  For each
question about a definition the layer writes one line, about the file that the resolver names just
then, also when the resolver fails afterwards, and none for any other question; to the part of the
log that nobody else writes to, a run adds these lines and nothing more.  The service underneath
gets the other questions, in their order.  Each question amounts to what `Handled` says and is
answered as by the plain layer.  When the resolver is a fixed one, all definitions of the run are
the same single one, in the file that the line names. -/
theorem consultations_redirected (inner : Service σ) (context : Context σ)
    (resolver : DefinitionResolver σ) (turns : List (Turn σ)) (w : σ) :
    let layer := service inner.transcribed context.transcribed
      (resolver.transcribed context.logger)
    let run := consultations layer turns w
    let lines := (run.filter fun e ↦ e.inquiry.isDefinition).map fun e ↦
      "[tzen-bridge] [tzenFilePath] " ++ (resolver.canonicalPath context e.before).1
    run.map Consultation.inquiry = turns.filterMap Turn.inquiry? ∧
    (run.flatMap Consultation.acts).filterMap Act.line? = lines ∧
    (∀ log, Shows inner context resolver turns log →
      log ((service inner context resolver).play turns w) = log w ++ lines) ∧
    (run.flatMap Consultation.acts).filterMap Act.inquiry? =
      (turns.filterMap Turn.inquiry?).filter (fun q ↦ !q.isDefinition) ∧
    (∀ e ∈ run, Handled inner context resolver e ∧
      (service inner context resolver).ask e.inquiry e.before = (e.answer, e.after)) ∧
    ∀ file, resolver = .fixed file → ∃ d : Definition,
      (∀ w', (resolver.canonicalPath context w').1 = d.fileName) ∧
      ∀ e ∈ run, ∀ a, e.definition? = some a → a = .ok (some ⟨[d], ⟨0, 0⟩⟩) := by
  intro layer run lines
  have hinquiries : run.map Consultation.inquiry = turns.filterMap Turn.inquiry? :=
    map_inquiry_consultations _ _ _
  have hhandled : ∀ e ∈ run, Handled inner context resolver e :=
    forall_mem_consultations _ _ _ fun q w ↦ handled_consult inner context resolver q w
  have hlines : (run.flatMap Consultation.acts).filterMap Act.line? = lines :=
    lines_of_handled hhandled
  refine ⟨hinquiries, hlines, fun log hlog ↦ ?_, ?_,
    fun e he ↦ ⟨hhandled e he, (hhandled e he).ask⟩, ?_⟩
  · rw [log_play hlog, ← hlines]
  · rw [inquiries_of_handled hhandled, hinquiries]
  · rintro file rfl
    exact ⟨_, fun _ ↦ rfl, fun e he a ha ↦ (hhandled e he).definition_of_fixed ha⟩

/-- A service that knows of nothing and writes nothing. -/
def silentService : Service σ where
  definition _ _ := return none
  quickInfo _ _ := return none
  programFileNames := return []

/-- A resolver over a world that is the log itself.  It changes its mind about the file once there
is a line, and fails. -/
def waveringResolver : DefinitionResolver (List String) where
  canonicalPath _ := do
    let log ← get
    return if log.isEmpty then "/p/a.tzen" else "/p/b.tzen"
  resolve _ _ _ := throw (.io .notFound)

theorem shows_wavering (turns : List (Turn (List String)))
    (h : ∀ f, .change f ∈ turns → ∀ w, f w = w) :
    Shows silentService ⟨"/p", fun line ↦ modify (· ++ [line])⟩ waveringResolver turns id where
  logger _ _ := rfl
  canonicalPath _ := rfl
  resolve _ _ _ := rfl
  inner q _ := by cases q <;> rfl
  change := h

/-- Two definitions with other questions and a change of the disk in between, under a resolver whose
file is spelt with a detour; and two definitions under a resolver that changes its mind. -/
theorem consultations_redirected_of_detour :
    (let inner : Service Cli.Console := Workbench.wordService (Workbench.diskHost "/" ["/a.ts"])
      let context : Context Cli.Console := ⟨"/p", .diagnostics⟩
      let resolver : DefinitionResolver Cli.Console := .fixed "x/../d.tzen"
      let turns : List (Turn Cli.Console) := [.ask (.definition "" 0), .ask .programFileNames,
        .change fun c ↦ { c with disk := ⟨.dir [("a.ts", .file .empty 0)], "/", none⟩ },
        .ask (.quickInfo "/a.ts" 1), .ask (.definition "/q.ts" 18446744073709551615)]
      let layer := service inner.transcribed context.transcribed
        (resolver.transcribed context.logger)
      let run := consultations layer turns { disk := ⟨.emptyDir, "/", none⟩ }
      (run.flatMap Consultation.acts).filterMap Act.line? =
          ["[tzen-bridge] [tzenFilePath] /p/d.tzen", "[tzen-bridge] [tzenFilePath] /p/d.tzen"] ∧
        (run.flatMap Consultation.acts).filterMap Act.inquiry? =
          [.programFileNames, .quickInfo "/a.ts" 1] ∧
        ∃ d : Definition, d.fileName = "/p/d.tzen" ∧
          run.filterMap Consultation.definition? =
            [.ok (some ⟨[d], ⟨0, 0⟩⟩), .ok (some ⟨[d], ⟨0, 0⟩⟩)]) ∧
    (service silentService ⟨"/p", fun line ↦ modify (· ++ [line])⟩ waveringResolver).play
      [.ask (.definition "" 0), .ask .programFileNames, .ask (.definition "" 0)] [] =
        ["[tzen-bridge] [tzenFilePath] /p/a.tzen", "[tzen-bridge] [tzenFilePath] /p/b.tzen"] := by
  constructor
  · intro inner context resolver turns layer run
    have hfile : DefinitionResolver.pathIn "x/../d.tzen" context = "/p/d.tzen" := by decide
    have hpath : ∀ w, (resolver.canonicalPath context w).1 = "/p/d.tzen" := by
      intro w
      rw [DefinitionResolver.canonicalPath_fixed, hfile]
    obtain ⟨-, hlines, -, hinquiries, -, hfixed⟩ := consultations_redirected inner context resolver
      turns { disk := ⟨.emptyDir, "/", none⟩ }
    obtain ⟨d, hd, hanswers⟩ := hfixed "x/../d.tzen" rfl
    refine ⟨?_, hinquiries, d, (hd default).symm.trans (hpath default), ?_⟩
    · rw [hlines]
      simp only [hpath]
      rfl
    · have hfirst := hanswers _ List.mem_cons_self _ rfl
      have hlast := hanswers _ (List.mem_cons_of_mem _ (List.mem_cons_of_mem _
        (List.mem_cons_of_mem _ List.mem_cons_self))) _ rfl
      exact congrArg₂ (fun a b ↦ [a, b]) hfirst hlast
  · have hlog := (consultations_redirected silentService
      ⟨"/p", fun line ↦ modify (· ++ [line])⟩ waveringResolver
      [.ask (.definition "" 0), .ask .programFileNames, .ask (.definition "" 0)] []).2.2.1 id
      (shows_wavering _ (by simp))
    exact hlog

end Overlay

end HostOverlay
