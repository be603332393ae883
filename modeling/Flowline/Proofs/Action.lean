import Flowline.Action

/-!
Laws of actions: how an action goes on after one that succeeded or failed, what is left of its end
when logs are put aside, and which events it can have.
-/

namespace Flowline

variable {σ τ α β γ : Type}

namespace Done

/-- The same end, with some events before its own. -/
def after (earlier : List Event) (d : Done σ α) : Done σ α :=
  ⟨d.result, earlier ++ d.events, d.state⟩

@[simp] theorem result_after (earlier : List Event) (d : Done σ α) :
    (d.after earlier).result = d.result := rfl

@[simp] theorem events_after (earlier : List Event) (d : Done σ α) :
    (d.after earlier).events = earlier ++ d.events := rfl

@[simp] theorem state_after (earlier : List Event) (d : Done σ α) :
    (d.after earlier).state = d.state := rfl

@[simp] theorem after_nil (d : Done σ α) : d.after [] = d := rfl

@[simp] theorem after_after (first second : List Event) (d : Done σ α) :
    (d.after second).after first = d.after (first ++ second) := by
  simp [after]

/-- What is left when logs are put aside. -/
def quiet (d : Done σ α) : Done σ α := { d with events := d.events.filter (!·.isLogged) }

@[simp] theorem result_quiet (d : Done σ α) : d.quiet.result = d.result := rfl

@[simp] theorem state_quiet (d : Done σ α) : d.quiet.state = d.state := rfl

@[simp] theorem events_quiet (d : Done σ α) :
    d.quiet.events = d.events.filter (!·.isLogged) := rfl

theorem quiet_of_result {d : Done σ α} {result : Except Failure α} (h : d.result = result) :
    d.quiet = ⟨result, d.events.filter (!·.isLogged), d.state⟩ := by
  rw [quiet, h]

theorem quiet_after (earlier : List Event) (d : Done σ α) :
    (d.after earlier).quiet = d.quiet.after (earlier.filter (!·.isLogged)) := by
  simp [quiet, after]

end Done

namespace Action

theorem ext {x y : Action σ α} (h : ∀ s, x s = y s) : x = y := funext h

@[simp] theorem pure_apply (a : α) (s : σ) : (pure a : Action σ α) s = ⟨.ok a, [], s⟩ := rfl

@[simp] theorem succeed_apply (a : α) (s : σ) : (succeed a : Action σ α) s = ⟨.ok a, [], s⟩ := rfl

@[simp] theorem fail_apply (f : Failure) (s : σ) :
    (fail f : Action σ α) s = ⟨.error f, [], s⟩ := rfl

theorem ofResult_apply (result : Except Failure α) (s : σ) :
    (ofResult result : Action σ α) s = ⟨result, [], s⟩ := by
  cases result <;> rfl

theorem bind_of_ok {x : Action σ α} {s : σ} {a : α} (next : α → Action σ β)
    (h : (x s).result = .ok a) :
    (x >>= next) s = (next a (x s).state).after (x s).events := by
  change andThen x next s = _
  simp only [andThen, h, Done.after]

theorem bind_of_error {x : Action σ α} {s : σ} {f : Failure} (next : α → Action σ β)
    (h : (x s).result = .error f) :
    (x >>= next) s = ⟨.error f, (x s).events, (x s).state⟩ := by
  change andThen x next s = _
  simp only [andThen, h]

theorem fork_of_ok {x : Action σ α} {s : σ} {a : α} (next : α → Action σ β)
    (handle : Failure → Action σ β) (h : (x s).result = .ok a) :
    x.fork next handle s = (next a (x s).state).after (x s).events := by
  simp only [fork, h, Done.after]

theorem fork_of_error {x : Action σ α} {s : σ} {f : Failure} (next : α → Action σ β)
    (handle : Failure → Action σ β) (h : (x s).result = .error f) :
    x.fork next handle s = (handle f (x s).state).after (x s).events := by
  simp only [fork, h, Done.after]

/-- Ways to go on that are silent add nothing to what is seen. -/
theorem events_fork_of_silent {x : Action σ α} {next : α → Action σ β}
    {handle : Failure → Action σ β} (hNext : ∀ a s, (next a s).events = [])
    (hHandle : ∀ f s, (handle f s).events = []) (s : σ) :
    (x.fork next handle s).events = (x s).events := by
  cases hx : (x s).result with
  | ok a => rw [fork_of_ok _ _ hx, Done.events_after, hNext, List.append_nil]
  | error f => rw [fork_of_error _ _ hx, Done.events_after, hHandle, List.append_nil]

theorem orElse_of_ok {x : Action σ α} {handle : Failure → Action σ α} {s : σ} {a : α}
    (h : (x s).result = .ok a) : x.orElse handle s = x s := by
  simp only [orElse, h]

theorem orElse_of_error {x : Action σ α} {handle : Failure → Action σ α} {s : σ} {f : Failure}
    (h : (x s).result = .error f) :
    x.orElse handle s = (handle f (x s).state).after (x s).events := by
  simp only [orElse, h, Done.after]

theorem pure_bind (a : α) (next : α → Action σ β) : (pure a >>= next) = next a :=
  ext fun s => bind_of_ok _ (x := (pure a : Action σ α)) (s := s) rfl

theorem bind_assoc (x : Action σ α) (next : α → Action σ β) (last : β → Action σ γ) :
    (x >>= next >>= last) = x >>= fun a => next a >>= last := by
  refine ext fun s => ?_
  cases hx : (x s).result with
  | error f =>
      have hBoth := bind_of_error next hx
      rw [bind_of_error _ hx, bind_of_error _ (by rw [hBoth]), hBoth]
  | ok a =>
      have hBoth := bind_of_ok next hx
      rw [bind_of_ok _ hx]
      cases hn : (next a (x s).state).result with
      | error f =>
          rw [bind_of_error _ hn, bind_of_error _ (by rw [hBoth]; exact hn), hBoth]
          rfl
      | ok b =>
          rw [bind_of_ok _ hn, bind_of_ok _ (by rw [hBoth]; exact hn), hBoth]
          simp

/-- A failure of the first part leads past the second one. -/
theorem fork_bind (x : Action σ α) (next : α → Action σ β) (handle : Failure → Action σ β)
    (last : β → Action σ γ) :
    (x.fork next handle >>= last) =
      x.fork (fun a => next a >>= last) (fun f => handle f >>= last) := by
  refine ext fun s => ?_
  cases hx : (x s).result with
  | ok a =>
      have hFork := fork_of_ok next handle hx
      rw [fork_of_ok _ _ hx]
      cases hn : (next a (x s).state).result with
      | error f =>
          rw [bind_of_error _ hn, bind_of_error _ (by rw [hFork]; exact hn), hFork]
          rfl
      | ok b =>
          rw [bind_of_ok _ hn, bind_of_ok _ (by rw [hFork]; exact hn), hFork]
          simp
  | error f =>
      have hFork := fork_of_error next handle hx
      rw [fork_of_error _ _ hx]
      cases hn : (handle f (x s).state).result with
      | error g =>
          rw [bind_of_error _ hn, bind_of_error _ (by rw [hFork]; exact hn), hFork]
          rfl
      | ok b =>
          rw [bind_of_ok _ hn, bind_of_ok _ (by rw [hFork]; exact hn), hFork]
          simp

theorem quiet_bind_of_ok {x : Action σ α} {s : σ} {a : α} {events : List Event} {t : σ}
    (next : α → Action σ β) (h : (x s).quiet = ⟨.ok a, events, t⟩) :
    ((x >>= next) s).quiet = (next a t).quiet.after events := by
  have hResult : (x s).result = .ok a := congrArg Done.result h
  have hEvents : (x s).events.filter (!·.isLogged) = events := congrArg Done.events h
  have hState : (x s).state = t := congrArg Done.state h
  rw [bind_of_ok _ hResult, Done.quiet_after, hEvents, hState]

theorem quiet_bind_of_error {x : Action σ α} {s : σ} {f : Failure} {events : List Event} {t : σ}
    (next : α → Action σ β) (h : (x s).quiet = ⟨.error f, events, t⟩) :
    ((x >>= next) s).quiet = ⟨.error f, events, t⟩ := by
  have hResult : (x s).result = .error f := congrArg Done.result h
  have hEvents : (x s).events.filter (!·.isLogged) = events := congrArg Done.events h
  have hState : (x s).state = t := congrArg Done.state h
  rw [bind_of_error _ hResult, Done.quiet, hEvents, hState]

/-- All events of an action, from whatever state it starts, have a property. -/
def Emits (P : Event → Prop) (x : Action σ α) : Prop := ∀ s, ∀ e ∈ (x s).events, P e

namespace Emits

variable {P Q : Event → Prop} {x : Action σ α} {next : α → Action σ β}

theorem mono (h : x.Emits P) (hPQ : ∀ e, P e → Q e) : x.Emits Q :=
  fun s e hMem => hPQ e (h s e hMem)

theorem of_silent (h : ∀ s, (x s).events = []) : x.Emits P := by
  intro s e hMem
  rw [h s] at hMem
  cases hMem

/-- An action that emits nothing at all. -/
theorem events_eq_nil (h : x.Emits fun _ => False) (s : σ) : (x s).events = [] :=
  List.eq_nil_iff_forall_not_mem.mpr (h s)

theorem pure (a : α) : (Pure.pure a : Action σ α).Emits P := of_silent fun _ => rfl

theorem succeed (a : α) : (Action.succeed a : Action σ α).Emits P := of_silent fun _ => rfl

theorem fail (f : Failure) : (Action.fail f : Action σ α).Emits P := of_silent fun _ => rfl

theorem ofResult (result : Except Failure α) : (Action.ofResult result : Action σ α).Emits P := by
  cases result with
  | ok a => exact succeed a
  | error f => exact fail f

theorem log {level : Log.Level} {logger : Log.Logger} {message : String}
    {fields : List (String × Value)} (h : P (.logged ⟨level, logger, message, fields, none⟩)) :
    (Action.log level logger message fields : Action σ Unit).Emits P := by
  intro s e hMem
  rw [List.mem_singleton.mp hMem]
  exact h

theorem bind (hx : x.Emits P) (hNext : ∀ a, (next a).Emits P) : (x >>= next).Emits P := by
  intro s e hMem
  cases h : (x s).result with
  | ok a =>
      rw [bind_of_ok _ h, Done.events_after, List.mem_append] at hMem
      exact hMem.elim (hx s e) (hNext a _ e)
  | error f =>
      rw [bind_of_error _ h] at hMem
      exact hx s e hMem

theorem fork {handle : Failure → Action σ β} (hx : x.Emits P) (hNext : ∀ a, (next a).Emits P)
    (hHandle : ∀ f, (handle f).Emits P) : (x.fork next handle).Emits P := by
  intro s e hMem
  cases h : (x s).result with
  | ok a =>
      rw [fork_of_ok _ _ h, Done.events_after, List.mem_append] at hMem
      exact hMem.elim (hx s e) (hNext a _ e)
  | error f =>
      rw [fork_of_error _ _ h, Done.events_after, List.mem_append] at hMem
      exact hMem.elim (hx s e) (hHandle f _ e)

theorem orElse {handle : Failure → Action σ α} (hx : x.Emits P)
    (hHandle : ∀ f, (handle f).Emits P) : (x.orElse handle).Emits P := by
  intro s e hMem
  cases h : (x s).result with
  | ok a =>
      rw [orElse_of_ok h] at hMem
      exact hx s e hMem
  | error f =>
      rw [orElse_of_error h, Done.events_after, List.mem_append] at hMem
      exact hMem.elim (hx s e) (hHandle f _ e)

theorem onPart {read : τ → σ} {write : σ → τ → τ} (hx : x.Emits P) :
    (x.onPart read write).Emits P :=
  fun t => hx (read t)

theorem ite {c : Prop} [Decidable c] {y : Action σ α} (hx : x.Emits P) (hy : y.Emits P) :
    (if c then x else y).Emits P := by
  split
  · exact hx
  · exact hy

end Emits

/-- An action leaves a part of the state as it was, whether it succeeds or fails. -/
def Keeps (view : σ → τ) (x : Action σ α) : Prop := ∀ s, view (x s).state = view s

namespace Keeps

variable {view : σ → τ} {x : Action σ α} {next : α → Action σ β}

theorem of_still (h : ∀ s, (x s).state = s) : x.Keeps view := fun s => congrArg view (h s)

theorem pure (a : α) : (Pure.pure a : Action σ α).Keeps view := of_still fun _ => rfl

theorem fail (f : Failure) : (Action.fail f : Action σ α).Keeps view := of_still fun _ => rfl

theorem ofResult (result : Except Failure α) :
    (Action.ofResult result : Action σ α).Keeps view := by
  cases result with
  | ok a => exact pure a
  | error f => exact fail f

theorem bind (hx : x.Keeps view) (hNext : ∀ a, (next a).Keeps view) : (x >>= next).Keeps view := by
  intro s
  cases h : (x s).result with
  | ok a =>
      rw [bind_of_ok _ h]
      exact (hNext a _).trans (hx s)
  | error f =>
      rw [bind_of_error _ h]
      exact hx s

theorem ite {c : Prop} [Decidable c] {y : Action σ α} (hx : x.Keeps view) (hy : y.Keeps view) :
    (if c then x else y).Keeps view := by
  split
  · exact hx
  · exact hy

end Keeps

/-- An action that ends with a value, from whatever state it starts. -/
def Succeeds (x : Action σ α) : Prop := ∀ s, ∃ a, (x s).result = .ok a

/-- From one state an action leads to a state with an invariant, and its failure has a property. -/
def ConfinedAt (Inv : σ → Prop) (P : Failure → Prop) (x : Action σ α) (s : σ) : Prop :=
  Inv (x s).state ∧ ∀ f, (x s).result = .error f → P f

/-- From every state with an invariant an action leads to one with it, and its failures have a
property. -/
def Confined (Inv : σ → Prop) (P : Failure → Prop) (x : Action σ α) : Prop :=
  ∀ s, Inv s → x.ConfinedAt Inv P s

section

variable {Inv : σ → Prop} {P Q : Failure → Prop} {x : Action σ α} {next : α → Action σ β} {s : σ}

namespace ConfinedAt

theorem of_ok {a : α} (hInv : Inv (x s).state) (hOk : (x s).result = .ok a) :
    x.ConfinedAt Inv P s := by
  refine ⟨hInv, fun f hError => ?_⟩
  rw [hOk] at hError
  cases hError

theorem mono (h : x.ConfinedAt Inv P s) (hPQ : ∀ f, (x s).result = .error f → P f → Q f) :
    x.ConfinedAt Inv Q s :=
  ⟨h.1, fun f hError => hPQ f hError (h.2 f hError)⟩

theorem bind (hx : x.ConfinedAt Inv P s)
    (hNext : ∀ a, (x s).result = .ok a → (next a).ConfinedAt Inv P (x s).state) :
    (x >>= next).ConfinedAt Inv P s := by
  cases h : (x s).result with
  | ok a =>
      rw [ConfinedAt, bind_of_ok _ h]
      exact hNext a h
  | error f =>
      rw [ConfinedAt, bind_of_error _ h]
      refine ⟨hx.1, fun g hError => ?_⟩
      cases hError
      exact hx.2 f h

/-- The failures of the first part need not be among those of the whole. -/
theorem fork {handle : Failure → Action σ β} (hx : x.ConfinedAt Inv Q s)
    (hNext : ∀ a, (next a).ConfinedAt Inv P (x s).state)
    (hHandle : ∀ f, Q f → (handle f).ConfinedAt Inv P (x s).state) :
    (x.fork next handle).ConfinedAt Inv P s := by
  cases h : (x s).result with
  | ok a =>
      rw [ConfinedAt, fork_of_ok _ _ h]
      exact hNext a
  | error f =>
      rw [ConfinedAt, fork_of_error _ _ h]
      exact hHandle f (hx.2 f h)

end ConfinedAt

namespace Confined

theorem mono (h : x.Confined Inv P) (hPQ : ∀ f, P f → Q f) : x.Confined Inv Q :=
  fun s hInv => (h s hInv).mono fun f _ => hPQ f

theorem succeed (a : α) : (Action.succeed a : Action σ α).Confined Inv P :=
  fun _ hInv => .of_ok hInv rfl

theorem pure (a : α) : (Pure.pure a : Action σ α).Confined Inv P := succeed a

theorem fail {f : Failure} (h : P f) : (Action.fail f : Action σ α).Confined Inv P := by
  refine fun s hInv => ⟨hInv, fun g hError => ?_⟩
  cases hError
  exact h

theorem ofResult {result : Except Failure α} (h : ∀ f, result = .error f → P f) :
    (Action.ofResult result : Action σ α).Confined Inv P := by
  cases result with
  | ok a => exact succeed a
  | error f => exact fail (h f rfl)

theorem log {level : Log.Level} {logger : Log.Logger} {message : String}
    {fields : List (String × Value)} :
    (Action.log level logger message fields : Action σ Unit).Confined Inv P :=
  fun _ hInv => .of_ok hInv rfl

theorem bind (hx : x.Confined Inv P) (hNext : ∀ a, (next a).Confined Inv P) :
    (x >>= next).Confined Inv P :=
  fun s hInv => (hx s hInv).bind fun a _ => hNext a _ (hx s hInv).1

theorem fork {handle : Failure → Action σ β} (hx : x.Confined Inv Q)
    (hNext : ∀ a, (next a).Confined Inv P) (hHandle : ∀ f, Q f → (handle f).Confined Inv P) :
    (x.fork next handle).Confined Inv P :=
  fun s hInv => (hx s hInv).fork (fun a => hNext a _ (hx s hInv).1)
    fun f hFails => hHandle f hFails _ (hx s hInv).1

theorem orElse {handle : Failure → Action σ α} (hx : x.Confined Inv Q)
    (hHandle : ∀ f, Q f → (handle f).Confined Inv P) : (x.orElse handle).Confined Inv P := by
  intro s hInv
  obtain ⟨hLeft, hFails⟩ := hx s hInv
  cases h : (x s).result with
  | ok a =>
      rw [ConfinedAt, orElse_of_ok h]
      exact ConfinedAt.of_ok hLeft h
  | error f =>
      rw [ConfinedAt, orElse_of_error h]
      exact hHandle f (hFails f h) _ hLeft

theorem ite {c : Prop} [Decidable c] {y : Action σ α} (hx : x.Confined Inv P)
    (hy : y.Confined Inv P) : (if c then x else y).Confined Inv P := by
  split
  · exact hx
  · exact hy

end Confined

end

end Action

end Flowline
