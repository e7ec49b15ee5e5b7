import StartOnReady.Event.Sample
import StartOnReady.Proofs.Application.Canonical
import StartOnReady.Proofs.Effects.Ensures
import StartOnReady.Proofs.Scripted.History
import StartOnReady.Proofs.Scripted.Race
import StartOnReady.Proofs.Service.Requests

/-!
# Which statuses outcomes show

The handler starts an application that is ready, so an outcome can only show the word `READY` for a
status that is not canonical.  `ensures_handleEvent` says this of the handler on its own.  Planes
that report canonical statuses never make it show that word: the service, whatever its replies, and
the scripted plane as long as its statuses are set by their words, in sessions
(`Scripted.State.IsCanonical.runSteps`) and with any number of tasks at once
(`Scripted.System.Clear.through`).
-/

namespace StartOnReady

open Effects (Program)

/-! ### The handler -/

/-- Whether an outcome shows no application as ready. -/
def Outcome.HidesReady (outcome : Outcome) : Prop :=
  ∀ app status, outcome = .statusFiltered app status → status.text ≠ "READY"

/-- Whether a description reports a canonical status. -/
def DescribesCanonically (result : Except ControlPlaneError ApplicationSnapshot) : Prop :=
  ∀ snapshot, result = .ok snapshot → snapshot.status.IsCanonical

/-- Whether the answer to an effect has canonical statuses only. -/
def Effect.IsCanonical : (effect : Effect) → effect.Answer → Prop
  | .describe _, result => DescribesCanonically result
  | .start _, _ | .log _, _ => True

theorem hidesReady_statusFiltered {app : ApplicationRef} {status : ApplicationStatus}
    (canonical : status.IsCanonical) (unready : status.isStartable = false) :
    (Outcome.statusFiltered app status).HidesReady := by
  rintro _ _ ⟨⟩ shown
  rw [canonical.eq_ready shown] at unready
  cases unready

/-- The outcome of what may have failed. -/
def HidesReadyIfAny (result : Except HandlerError Outcome) : Prop :=
  ∀ outcome, result = .ok outcome → outcome.HidesReady

theorem ensures_startIfReady (planeName : String) (app : ApplicationRef) :
    (startIfReady planeName app).Ensures Effect.IsCanonical HidesReadyIfAny := by
  intro result described
  cases result with
  | error e => exact nofun
  | ok snapshot =>
    intro _ _
    cases ready : snapshot.status.isStartable with
    | false =>
      rw [if_neg (by simp)]
      rintro _ _ _ ⟨⟩
      exact hidesReady_statusFiltered (described snapshot rfl) ready
    | true =>
      rw [if_pos rfl]
      rintro (e | ⟨⟩) _
      · exact nofun
      · rintro _ _ _ ⟨⟩
        exact nofun

theorem ensures_actOn (planeName : String) (event : ChangeEvent) :
    (actOn planeName event).Ensures Effect.IsCanonical HidesReadyIfAny := by
  unfold actOn
  cases event.applicationRef with
  | error e => exact nofun
  | ok app => exact ensures_startIfReady planeName app

/-- Canonical statuses in, no application shown as ready. -/
theorem ensures_handleEvent (planeName : String) (event : ChangeEvent) :
    (handleEvent planeName event).Ensures Effect.IsCanonical Outcome.HidesReady := by
  unfold handleEvent
  cases event.detail with
  | none => exact fun _ _ => nofun
  | some detail =>
    intro _ _ _ _
    split
    · refine (ensures_actOn planeName event).bind fun result hides => ?_
      cases result with
      | error e => exact fun _ _ => nofun
      | ok outcome => exact hides outcome rfl
    · exact fun _ _ => nofun

theorem ensures_handleValue (planeName : String) (payload : Json.Value) :
    (handleValue planeName payload).Ensures Effect.IsCanonical Outcome.HidesReady := by
  unfold handleValue
  cases ChangeEvent.ofValue payload with
  | error e => exact fun _ _ => nofun
  | ok event => exact ensures_handleEvent planeName event

/-! ### Planes -/

/-- Whether the states in `inv` lead to each other and make a plane report canonical statuses. -/
structure ControlPlane.KeepsCanonical {σ : Type} (plane : ControlPlane σ) (inv : σ → Prop) :
    Prop where
  describe : ∀ app s, inv s →
    DescribesCanonically (plane.describe app s).result ∧ inv (plane.describe app s).state
  start : ∀ app s, inv s → inv (plane.start app s).state

namespace ControlPlane.KeepsCanonical

variable {σ α : Type} {plane : ControlPlane σ} {inv : σ → Prop} {s : σ}

theorem run (h : plane.KeepsCanonical inv) {p : Program Calls α} {post : α → Prop}
    (ensures : p.Ensures Effect.IsCanonical post) (start : inv s) :
    post (plane.run p s).1 ∧ inv (plane.run p s).2.state := by
  have keeps (effect : Effect) (j : Journal σ) (here : inv j.state) :
      Effect.IsCanonical effect (plane.answer effect j).1 ∧
        inv (plane.answer effect j).2.state := by
    cases effect with
    | describe app => exact h.describe app j.state here
    | start app => exact ⟨trivial, h.start app j.state here⟩
    | log record => exact ⟨trivial, here⟩
  exact ensures.run keeps start

theorem handle (h : plane.KeepsCanonical inv) (event : ChangeEvent) (start : inv s) :
    (plane.handle event s).1.HidesReady ∧ inv (plane.handle event s).2.state :=
  h.run (ensures_handleEvent plane.name event) start

theorem handleValue (h : plane.KeepsCanonical inv) (payload : Json.Value) (start : inv s) :
    (plane.handleValue payload s).1.HidesReady ∧ inv (plane.handleValue payload s).2.state :=
  h.run (ensures_handleValue plane.name payload) start

end ControlPlane.KeepsCanonical

theorem Service.describesCanonically (shared : SharedConfig) (app : ApplicationRef)
    (network : Network) : DescribesCanonically (shared.plane.describe app network).result := by
  intro snapshot described
  rcases reply : shared.plane.describe app network with ⟨result, after, records⟩
  rw [reply] at described
  cases described
  obtain ⟨item, -, rfl⟩ := describe_eq_ok reply
  exact ApplicationStatus.isCanonical_parse _

/-- The service reports canonical statuses, whatever is replied to its requests. -/
theorem Service.keepsCanonical_plane (shared : SharedConfig) :
    shared.plane.KeepsCanonical fun _ => True where
  describe app network _ := ⟨describesCanonically shared app network, trivial⟩
  start _ _ _ := trivial

/-! ### The scripted plane -/

namespace Scripted

/-- Whether all statuses are canonical. -/
def State.IsCanonical (s : State) : Prop :=
  ∀ name status, s.status name = some status → status.IsCanonical

/-- Whether the answer to an access has canonical statuses only. -/
def Access.IsCanonical : (a : Access) → a.Answer → Prop
  | .readStatus _, seen | .claimStart _, seen =>
    ∀ status : ApplicationStatus, seen = some status → status.IsCanonical
  | .takeDescribeError, _ | .takeStartError, _ | .recordDescribe _, _ | .recordStart _, _ => True

theorem State.isCanonical_empty : State.IsCanonical {} := fun _ _ => nofun

theorem State.IsCanonical.setStatus {s : State} (h : s.IsCanonical) (name : String)
    {status : ApplicationStatus} (canonical : status.IsCanonical) :
    (s.setStatus name status).IsCanonical := by
  intro other found here
  rw [State.status_setStatus] at here
  split at here
  · cases here
    exact canonical
  · exact h other found here

theorem State.IsCanonical.access {s : State} (h : s.IsCanonical) (a : Access) :
    Access.IsCanonical a (Scripted.access a s).1 ∧ (Scripted.access a s).2.IsCanonical := by
  cases a with
  | takeDescribeError | takeStartError | recordDescribe _ | recordStart _ => exact ⟨trivial, h⟩
  | readStatus name => exact ⟨h name, h⟩
  | claimStart name =>
    refine ⟨h name, ?_⟩
    simp only [Scripted.access]
    split
    · exact h.setStatus name (by decide)
    · exact h

theorem ensures_describe (app : ApplicationRef) :
    (describe app).Ensures Access.IsCanonical DescribesCanonically := by
  rintro (_ | e) _
  · rintro (_ | status) seen
    · exact fun _ _ => nofun
    · rintro _ _ _ ⟨⟩
      exact seen status rfl
  · exact fun _ _ => nofun

theorem keepsCanonical_plane : plane.KeepsCanonical State.IsCanonical where
  describe app _ h := (ensures_describe app).run (fun a _ h => h.access a) h
  start app _ h :=
    have unasked : (start app).Ensures Access.IsCanonical fun _ => True :=
      Program.ensures_of_forall (fun _ => trivial) _
    (unasked.run (fun a _ h => h.access a) h).2

/-! ### Sessions -/

/-- Whether a step that sets a status sets it by a word. -/
def Step.SetsByWord (step : Step) : Prop :=
  ∀ name status, step = .setStatus name status → ∃ word, status = .parse word

theorem State.IsCanonical.take {s : State} (h : s.IsCanonical) {step : Step}
    (byWord : step.SetsByWord) : (step.take s).2.2.IsCanonical := by
  cases step with
  | setStatus name status =>
    obtain ⟨word, rfl⟩ := byWord name status rfl
    exact h.setStatus name (ApplicationStatus.isCanonical_parse word)
  | readStatus _ | setDescribeError _ | setStartError _ | readCalls => exact h
  | describe app => exact (keepsCanonical_plane.describe app s h).2
  | start app => exact keepsCanonical_plane.start app s h
  | handle payload | invoke _ payload => exact (keepsCanonical_plane.handleValue payload h).2
  | handleEvent event => exact (keepsCanonical_plane.handle event h).2

theorem State.IsCanonical.hidesReady {s : State} (h : s.IsCanonical) {step : Step}
    {outcome : Outcome} (has : (step.take s).1.outcome? = some outcome) : outcome.HidesReady := by
  rcases Step.handling_of_outcome has with ⟨rfl, -⟩ | ⟨event, journal, -, -, -, handling⟩
  · exact nofun
  · have hides := (keepsCanonical_plane.handle event h).1
    rw [handling.handle_eq] at hides
    exact hides

/-- No step of a session shows an application as ready. -/
theorem State.IsCanonical.runSteps {s : State} (h : s.IsCanonical) {steps : List Step}
    (byWord : ∀ step ∈ steps, step.SetsByWord) :
    ∀ taken ∈ Scripted.runSteps steps s, ∀ outcome, taken.1.outcome? = some outcome →
      outcome.HidesReady := by
  induction steps generalizing s with
  | nil => exact fun _ mem => absurd mem List.not_mem_nil
  | cons step steps ih =>
    obtain ⟨here, later⟩ := List.forall_mem_cons.1 byWord
    intro taken mem
    rcases List.mem_cons.1 mem with rfl | mem
    · exact fun _ => h.hidesReady
    · exact ih (h.take here) later taken mem

/-! ### Tasks at once -/

/-- What can happen while tasks run: one of them goes on by one act, or somebody else sets a status
by its word, injects an error or makes any access of a call. -/
inductive Turn where
  | advance (place : Nat)
  | setStatus (name word : String)
  | inject (kind : CallKind) (error : ControlPlaneError)
  | access (a : Access)

/-- Takes a turn. -/
def System.turn (s : System) : Turn → System
  | .advance place => s.move (.advance place)
  | .setStatus name word => s.move (.setStatus name (.parse word))
  | .inject kind error => { s with shared := s.shared.inject kind error }
  | .access a => { s with shared := (Scripted.access a s.shared).2 }

/-- Takes turns one after the other. -/
def System.through (s : System) (turns : List Turn) : System := turns.foldl turn s

/-- Whether the answer to an act has canonical statuses only. -/
def Act.IsCanonical : (act : Act) → act.Answer → Prop
  | .access a, answer => Access.IsCanonical a answer
  | .returned _, _ => True

theorem ensures_accessing {α : Type} {p : Program Accesses α} {post : α → Prop}
    (h : p.Ensures Access.IsCanonical post) : (accessing p).Ensures Act.IsCanonical post :=
  h.interpret fun a => Program.ensures_question (I := Acts) (.access a)

theorem ensures_serve (effect : Effect) :
    (serve effect).Ensures Act.IsCanonical (Effect.IsCanonical effect) := by
  cases effect with
  | describe app =>
    exact (ensures_accessing (ensures_describe app)).bind fun _ described _ _ => described
  | start app => exact Program.ensures_of_forall (fun _ => trivial) _
  | log record => exact trivial

/-- Canonical statuses everywhere, and no task that can come to show an application as ready. -/
structure System.Clear (s : System) : Prop where
  shared : s.shared.IsCanonical
  tasks : ∀ task ∈ s.tasks, task.rest.Ensures Act.IsCanonical Outcome.HidesReady

theorem System.clear_ofEvents (events : List ChangeEvent) : (ofEvents events).Clear where
  shared := State.isCanonical_empty
  tasks task mem := by
    obtain ⟨event, -, rfl⟩ := List.mem_map.1 mem
    exact (ensures_handleEvent plane.name event).interpret ensures_serve

theorem State.IsCanonical.inject {s : State} (h : s.IsCanonical) (kind : CallKind)
    (error : ControlPlaneError) : (s.inject kind error).IsCanonical := by
  cases kind <;> exact h

theorem System.Clear.turn {s : System} (h : s.Clear) (turn : Turn) : (s.turn turn).Clear := by
  cases turn with
  | setStatus name word =>
    exact ⟨h.shared.setStatus name (ApplicationStatus.isCanonical_parse word), h.tasks⟩
  | inject kind error => exact ⟨h.shared.inject kind error, h.tasks⟩
  | access a => exact ⟨(h.shared.access a).2, h.tasks⟩
  | advance place =>
    have step := step_move s (.advance place)
    rw [System.turn]
    generalize s.move (.advance place) = s' at step ⊢
    cases step with
    | idle => exact h
    | perform _ task a next found rest =>
      -- What the task still ensures holds for this answer, since the shared state gave it.
      have ensures := h.tasks task (List.mem_of_getElem? found)
      rw [rest] at ensures
      obtain ⟨answer, left⟩ := h.shared.access a
      refine ⟨left, fun task' mem => ?_⟩
      rcases mem_set mem with old | rfl
      · exact h.tasks task' old
      · exact ensures _ answer
    | comeBack _ task call next found rest =>
      have ensures := h.tasks task (List.mem_of_getElem? found)
      rw [rest] at ensures
      refine ⟨h.shared, fun task' mem => ?_⟩
      rcases mem_set mem with old | rfl
      · exact h.tasks task' old
      · exact ensures () trivial

theorem System.Clear.through {s : System} (h : s.Clear) (turns : List Turn) :
    (s.through turns).Clear :=
  List.foldlRecOn turns _ h fun _ clear turn _ => clear.turn turn

/-- A task that has ended shows no application as ready. -/
theorem System.Clear.hidesReady {s : System} (h : s.Clear) {task : Task} (mem : task ∈ s.tasks)
    {outcome : Outcome} (finished : task.outcome? = some outcome) : outcome.HidesReady := by
  have ensures := h.tasks task mem
  unfold Task.outcome? at finished
  split at finished
  · next rest =>
    rw [rest] at ensures
    cases finished
    exact ensures
  · cases finished

end Scripted

/-! ### Words and statuses -/

/-- Words and statuses stand for each other as long as the statuses are canonical, also through
texts; so neither the scripted plane, with statuses that are set by their words, nor the service
makes the handler show an application as ready that it does not start. -/
theorem ApplicationStatus.canonical_throughout :
    (∀ word, (parse word).text = word ∧ ((parse word).isStartable = true ↔ word = "READY") ∧
      (parse word).IsCanonical) ∧
    (∀ status, parse status.text = status ↔ status.IsCanonical) ∧
    (∀ document status, decoder document = .ok status → status.IsCanonical) ∧
    (∀ app : ApplicationRef,
      Json.Decoder.run ApplicationRef.decoder app.toJson.render = .ok app) ∧
    (∀ name status, ∀ version : Option Int64,
      let snapshot : ApplicationSnapshot := ⟨name, status, version.map Int64.toInt⟩
      let read := Json.Decoder.run ApplicationSnapshot.decoder snapshot.toJson.render
      read = .ok { snapshot with status := parse status.text } ∧
        (read = .ok snapshot ↔ status.IsCanonical)) ∧
    (∀ steps : List Scripted.Step, (∀ step ∈ steps, step.SetsByWord) →
      ∀ taken ∈ Scripted.runSteps steps {}, ∀ outcome, taken.1.outcome? = some outcome →
        outcome.HidesReady) ∧
    (∀ events turns, ∀ task ∈ ((Scripted.System.ofEvents events).through turns).tasks,
      ∀ outcome, task.outcome? = some outcome → outcome.HidesReady) ∧
    ∀ (shared : Service.SharedConfig) network,
      (∀ event, (shared.plane.handle event network).1.HidesReady) ∧
        ∀ payload, (shared.plane.handleValue payload network).1.HidesReady := by
  refine ⟨fun word => ⟨text_parse word, isStartable_parse_iff word, isCanonical_parse word⟩,
    parse_text_eq_iff, fun _ _ => isCanonical_of_decoder, ApplicationRef.run_decoder_render,
    fun name status version => ?_, fun steps byWord => ?_, fun events turns task mem outcome => ?_,
    fun shared network => ⟨fun event => ?_, fun payload => ?_⟩⟩
  · have signed : ∀ id ∈ version.map Int64.toInt, Decimal.isSigned64 id = true := by
      intro id mem
      obtain ⟨i, -, rfl⟩ := Option.map_eq_some_iff.1 mem
      exact Decimal.isSigned64_toInt i
    exact ⟨ApplicationSnapshot.run_decoder_render signed,
      ApplicationSnapshot.run_decoder_render_eq_self_iff signed⟩
  · exact Scripted.State.isCanonical_empty.runSteps byWord
  · exact ((Scripted.System.clear_ofEvents events).through turns).hidesReady mem
  · exact ((Service.keepsCanonical_plane shared).handle event trivial).1
  · exact ((Service.keepsCanonical_plane shared).handleValue payload trivial).1

/-- A session that sets a status by a word which is not in the list. -/
def Scripted.pausedSession : List Scripted.Step :=
  [.setStatus "orders" (.parse "PAUSED"),
    .handle (Sample.payload "UpdateApplication" "us-east-1" "orders")]

theorem ApplicationStatus.canonical_throughout_of_paused :
    (∀ step ∈ Scripted.pausedSession, step.SetsByWord) ∧
      (Scripted.runSteps Scripted.pausedSession {}).filterMap (fun taken => taken.1.outcome?) =
        [.statusFiltered ⟨"us-east-1", "orders"⟩ (.unknown "PAUSED")] ∧
      (Outcome.statusFiltered ⟨"us-east-1", "orders"⟩ (.unknown "PAUSED")).HidesReady := by
  have byWord : ∀ step ∈ Scripted.pausedSession, step.SetsByWord := by
    intro step mem
    rcases List.mem_pair.1 mem with rfl | rfl
    · rintro _ _ ⟨⟩
      exact ⟨"PAUSED", rfl⟩
    · exact nofun
  have outcomes : (Scripted.runSteps Scripted.pausedSession {}).filterMap
      (fun taken => taken.1.outcome?) =
        [.statusFiltered ⟨"us-east-1", "orders"⟩ (.unknown "PAUSED")] := by decide +kernel
  refine ⟨byWord, outcomes, ?_⟩
  obtain ⟨taken, mem, has⟩ := List.mem_filterMap.1 (outcomes ▸ List.mem_singleton_self _)
  exact canonical_throughout.2.2.2.2.2.1 Scripted.pausedSession byWord taken mem _ has

/-- A status that keeps the word of another one is shown by it, and no start is asked for. -/
example :
    let event := Sample.payload "UpdateApplication" "us-east-1" "orders"
    let shown := (Scripted.plane.handleValue event
      { statuses := [("orders", .unknown "READY")] }).1
    shown = .statusFiltered ⟨"us-east-1", "orders"⟩ (.unknown "READY") := by
  decide +kernel

end StartOnReady
