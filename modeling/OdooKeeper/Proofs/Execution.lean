import OdooKeeper.Attempt
import OdooKeeper.Store

/-! # Executions of programs

A program is executed request by request, and others may change the store right before each of
them. `Program.Meets` says what holds of the requests, the result and the last store of every
execution; it is proved along the program. -/

namespace OdooKeeper

/-- A request and the store that it reached. -/
structure Event where
  store : Store
  request : Request

namespace Event

def after (e : Event) : Store := (e.store.serve e.request).2

def Refused (e : Event) : Prop := ∃ cause, (e.store.serve e.request).1 = .error cause

end Event

namespace Program

variable {α β : Type} {others : Store → Store → Prop}

/-- The whole executions of a program: its requests in order, its result and the store it leaves.
`others` is what may happen to the store before a request. -/
inductive Executes (others : Store → Store → Prop) :
    {α : Type} → Program α → Store → List Event → α → Store → Prop where
  | done {α : Type} (a : α) (s : Store) : Executes others (.done a) s [] a s
  | call {α : Type} {r : Request} {next : r.Answer → Program α} {s s' t : Store}
      {log : List Event} {a : α} (before : others s s')
      (rest : Executes others (next (s'.serve r).1) (s'.serve r).2 log a t) :
      Executes others (.call r next) s (⟨s', r⟩ :: log) a t

/-- What holds after every execution of a program from a store. -/
def Meets (others : Store → Store → Prop) (p : Program α) (s : Store)
    (post : List Event → α → Store → Prop) : Prop :=
  ∀ log a t, p.Executes others s log a t → post log a t

/-! ## Along a program -/

theorem Meets.mono {p : Program α} {s : Store} {post post' : List Event → α → Store → Prop}
    (h : p.Meets others s post) (himp : ∀ log a t, post log a t → post' log a t) :
    p.Meets others s post' :=
  fun log a t he => himp log a t (h log a t he)

theorem meets_done {a : α} {s : Store} {post : List Event → α → Store → Prop} (h : post [] a s) :
    (Program.done a).Meets others s post := by
  intro log b t he
  cases he
  exact h

theorem meets_pure {a : α} {s : Store} {post : List Event → α → Store → Prop} (h : post [] a s) :
    (pure a : Program α).Meets others s post :=
  meets_done h

theorem meets_call {r : Request} {next : r.Answer → Program α} {s : Store}
    {post : List Event → α → Store → Prop}
    (h : ∀ s', others s s' → (next (s'.serve r).1).Meets others (s'.serve r).2
      fun log a t => post (⟨s', r⟩ :: log) a t) :
    (Program.call r next).Meets others s post := by
  intro log b t he
  cases he with
  | call before rest => exact h _ before _ _ _ rest

theorem meets_ask {r : Request} {s : Store} {post : List Event → r.Answer → Store → Prop}
    (h : ∀ s', others s s' → post [⟨s', r⟩] (s'.serve r).1 (s'.serve r).2) :
    (ask r).Meets others s post :=
  meets_call fun s' hs' => meets_done (h s' hs')

theorem executes_bind {p : Program α} {f : α → Program β} {s t : Store} {log : List Event} {b : β}
    (h : (p >>= f).Executes others s log b t) :
    ∃ log₁ log₂ a u, log = log₁ ++ log₂ ∧ p.Executes others s log₁ a u ∧
      (f a).Executes others u log₂ b t := by
  induction p generalizing s log with
  | done a => exact ⟨[], log, a, s, rfl, .done a s, h⟩
  | call r next ih =>
    cases h with
    | call before rest =>
      obtain ⟨log₁, log₂, a, u, rfl, h₁, h₂⟩ := ih _ rest
      exact ⟨_ :: log₁, log₂, a, u, rfl, .call before h₁, h₂⟩

theorem meets_bind {p : Program α} {f : α → Program β} {s : Store}
    {post : List Event → β → Store → Prop}
    (h : p.Meets others s fun log a t => (f a).Meets others t fun log' => post (log ++ log')) :
    (p >>= f).Meets others s post := by
  intro log b t he
  obtain ⟨log₁, log₂, a, u, rfl, h₁, h₂⟩ := executes_bind he
  exact h _ _ _ h₁ _ _ _ h₂

/-! ## What a program asks -/

/-- Whatever the answers are, the program makes only allowed requests and ends in a result of a
kind. -/
def Asks (allowed : Request → Prop) (post : α → Prop) : Program α → Prop
  | .done a => post a
  | .call r next => allowed r ∧ ∀ answer, (next answer).Asks allowed post

section Asks

variable {allowed : Request → Prop} {post : α → Prop}

theorem asks_pure {a : α} (h : post a) : (pure a : Program α).Asks allowed post := h

theorem asks_ask {r : Request} {post : r.Answer → Prop} (hr : allowed r)
    (h : ∀ answer, post answer) : (ask r).Asks allowed post :=
  ⟨hr, h⟩

theorem Asks.mono {p : Program α} {post' : α → Prop} (h : p.Asks allowed post)
    (himp : ∀ a, post a → post' a) : p.Asks allowed post' := by
  induction p with
  | done a => exact himp a h
  | call r next ih => exact ⟨h.1, fun answer => ih answer (h.2 answer)⟩

theorem Asks.allow {p : Program α} {allowed' : Request → Prop} (h : p.Asks allowed post)
    (himp : ∀ r, allowed r → allowed' r) : p.Asks allowed' post := by
  induction p with
  | done a => exact h
  | call r next ih => exact ⟨himp r h.1, fun answer => ih answer (h.2 answer)⟩

theorem asks_bind {p : Program α} {f : α → Program β} {post : β → Prop}
    (h : p.Asks allowed fun a => (f a).Asks allowed post) : (p >>= f).Asks allowed post := by
  induction p with
  | done a => exact h
  | call r next ih => exact ⟨h.1, fun answer => ih answer (h.2 answer)⟩

theorem Executes.asked {p : Program α} {s t : Store} {log : List Event} {a : α}
    (h : p.Executes others s log a t) (hp : p.Asks allowed post) :
    (∀ e ∈ log, allowed e.request) ∧ post a := by
  induction h with
  | done a s => exact ⟨by simp, hp⟩
  | call before rest ih =>
    obtain ⟨hlog, ha⟩ := ih (hp.2 _)
    refine ⟨fun e he => ?_, ha⟩
    rcases List.mem_cons.mp he with rfl | he
    · exact hp.1
    · exact hlog e he

/-- What others and the allowed requests preserve holds all along an execution. -/
theorem Executes.keeps (allowed : Request → Prop) (inv : Store → Prop) {p : Program α} {s t : Store}
    {log : List Event} {a : α} (h : p.Executes others s log a t)
    (hlog : ∀ e ∈ log, allowed e.request) (hothers : ∀ s s', others s s' → inv s → inv s')
    (hserve : ∀ s r, allowed r → inv s → inv (s.serve r).2) (hs : inv s) :
    (∀ e ∈ log, inv e.store ∧ inv e.after) ∧ inv t := by
  induction h with
  | done a s => exact ⟨by simp, hs⟩
  | call before rest ih =>
    have hstore := hothers _ _ before hs
    have hafter := hserve _ _ (hlog _ List.mem_cons_self) hstore
    obtain ⟨hrest, ht⟩ := ih (fun e he => hlog e (List.mem_cons_of_mem _ he)) hafter
    refine ⟨fun e he => ?_, ht⟩
    rcases List.mem_cons.mp he with rfl | he
    · exact ⟨hstore, hafter⟩
    · exact hrest e he

theorem Asks.run_alike {p : Program α} {alike : Store → Store → Prop} {s s' : Store}
    (hp : p.Asks allowed post) (hs : alike s s')
    (hserve : ∀ s s' r, allowed r → alike s s' →
      (s.serve r).1 = (s'.serve r).1 ∧ alike (s.serve r).2 (s'.serve r).2) :
    (p.run s).1 = (p.run s').1 ∧ alike (p.run s).2 (p.run s').2 := by
  induction p generalizing s s' with
  | done a => exact ⟨rfl, hs⟩
  | call r next ih =>
    obtain ⟨hanswer, hafter⟩ := hserve s s' r hp.1 hs
    rw [run_call, run_call, ← hanswer]
    exact ih _ (hp.2 _) hafter

end Asks

/-! ## Alone -/

theorem Executes.run_eq {p : Program α} {s t : Store} {log : List Event} {a : α}
    (h : p.Executes Eq s log a t) : p.run s = (a, t) := by
  induction h with
  | done a s => rfl
  | call before rest ih =>
    subst before
    exact ih

theorem Executes.first {p : Program α} {s t : Store} {e : Event} {rest : List Event} {a : α}
    (h : p.Executes Eq s (e :: rest) a t) : e.store = s := by
  cases h with
  | call before rest => exact before.symm

theorem exists_executes_run (p : Program α) (s : Store) :
    ∃ log, p.Executes Eq s log (p.run s).1 (p.run s).2 := by
  induction p generalizing s with
  | done a => exact ⟨[], .done a s⟩
  | call r next ih =>
    obtain ⟨log, h⟩ := ih (s.serve r).1 (s.serve r).2
    exact ⟨_, .call rfl h⟩

/-! ## Played executions -/

/-- The execution of a program in which each listed change comes before one request, in order, and
nothing after them. -/
def play (changes : List (Store → Store)) : Program α → Store → List Event × α × Store
  | .done a, s => ([], a, s)
  | .call r next, s =>
    let s' := (changes.headD id) s
    let rest := (next (s'.serve r).1).play changes.tail (s'.serve r).2
    (⟨s', r⟩ :: rest.1, rest.2)

theorem executes_play (hrefl : ∀ s, others s s) (changes : List (Store → Store))
    (hchanges : ∀ f ∈ changes, ∀ s, others s (f s)) (p : Program α) (s : Store) :
    p.Executes others s (p.play changes s).1 (p.play changes s).2.1 (p.play changes s).2.2 := by
  induction p generalizing s changes with
  | done a => exact .done a s
  | call r next ih =>
    refine .call ?_ (ih _ _ (fun f hf => hchanges f (List.mem_of_mem_tail hf)) _)
    cases changes with
    | nil => exact hrefl s
    | cons f rest => exact hchanges f List.mem_cons_self s

end Program

/-! ## Attempts -/

section Except

variable {ε ε' α β : Type} {x : Except ε α} {a : α} {b : β}

theorem Except.mapError_eq_ok_iff {f : ε → ε'} : x.mapError f = .ok a ↔ x = .ok a := by
  cases x with
  | ok b =>
    constructor
    · intro h
      exact congrArg Except.ok (Except.ok.inj h)
    · rintro ⟨⟩
      rfl
  | error e => exact ⟨nofun, nofun⟩

theorem Except.mapError_eq_error_iff {f : ε → ε'} {e' : ε'} :
    x.mapError f = .error e' ↔ ∃ e, x = .error e ∧ e' = f e := by
  cases x with
  | ok b => exact ⟨nofun, nofun⟩
  | error e =>
    constructor
    · intro h
      exact ⟨e, rfl, (Except.error.inj h).symm⟩
    · rintro ⟨_, ⟨⟩, rfl⟩
      rfl

theorem Except.bind_eq_ok {f : α → Except ε β} (h : (x >>= f) = .ok b) :
    ∃ a, x = .ok a ∧ f a = .ok b := by
  cases x with
  | ok a => exact ⟨a, rfl, h⟩
  | error e => cases h

theorem Except.eq_ok_of_toOption (h : x.toOption = some a) : x = .ok a := by
  cases x with
  | error e => cases h
  | ok b => exact congrArg Except.ok (Option.some.inj h)

end Except

namespace Attempt

variable {α β : Type} {others : Store → Store → Prop} {s : Store}

theorem meets_pure {a : α} {post : List Event → Except Failure α → Store → Prop}
    (h : post [] (.ok a) s) : (pure a : Attempt α).run.Meets others s post :=
  Program.meets_done h

theorem meets_bind {x : Attempt α} {f : α → Attempt β}
    {post : List Event → Except Failure β → Store → Prop}
    (h : x.run.Meets others s fun log result t => match result with
      | .ok a => (f a).run.Meets others t fun log' => post (log ++ log')
      | .error failure => post log (.error failure) t) :
    (x >>= f).run.Meets others s post := by
  rw [ExceptT.run_bind]
  refine Program.meets_bind (h.mono fun log result t hr => ?_)
  cases result with
  | ok a => exact hr
  | error failure => exact Program.meets_done (by simpa using hr)

theorem executes_bind {x : Attempt α} {f : α → Attempt β} {log : List Event}
    {result : Except Failure β} {t : Store} (h : (x >>= f).run.Executes others s log result t) :
    (∃ failure, x.run.Executes others s log (.error failure) t ∧ result = .error failure) ∨
      ∃ log₁ log₂ a u, log = log₁ ++ log₂ ∧ x.run.Executes others s log₁ (.ok a) u ∧
        (f a).run.Executes others u log₂ result t := by
  rw [ExceptT.run_bind] at h
  obtain ⟨log₁, log₂, first, u, rfl, h₁, h₂⟩ := Program.executes_bind h
  cases first with
  | ok a => exact .inr ⟨log₁, log₂, a, u, rfl, h₁, h₂⟩
  | error failure =>
    cases h₂
    exact .inl ⟨failure, by rw [List.append_nil]; exact h₁, rfl⟩

theorem executes_bind_ok {x : Attempt α} {f : α → Attempt β} {log : List Event} {b : β} {t : Store}
    (h : (x >>= f).run.Executes others s log (.ok b) t) :
    ∃ log₁ log₂ a u, log = log₁ ++ log₂ ∧ x.run.Executes others s log₁ (.ok a) u ∧
      (f a).run.Executes others u log₂ (.ok b) t :=
  (executes_bind h).resolve_left fun ⟨_, _, hfails⟩ => by cases hfails

theorem meets_request {role : Role} {operation : Operation} {name : String} {r : Request}
    {post : List Event → Except Failure r.Value → Store → Prop}
    (h : ∀ s', others s s' → post [⟨s', r⟩]
      ((s'.serve r).1.mapError (.store role operation name)) (s'.serve r).2) :
    (request role operation name (Program.ask r)).run.Meets others s post :=
  Program.meets_bind (Program.meets_ask fun s' hs' => Program.meets_done (h s' hs'))

theorem executes_request {role : Role} {operation : Operation} {name : String} {r : Request}
    {log : List Event} {result : Except Failure r.Value} {t : Store}
    (h : (request role operation name (Program.ask r)).run.Executes others s log result t) :
    ∃ u, others s u ∧ log = [⟨u, r⟩] ∧
      result = (u.serve r).1.mapError (.store role operation name) ∧ t = (u.serve r).2 := by
  obtain ⟨log₁, log₂, answer, v, rfl, hasked, hanswered⟩ := Program.executes_bind h
  cases hasked with
  | call before rest =>
    cases rest
    cases hanswered
    exact ⟨_, before, rfl, rfl, rfl⟩

theorem executes_last {role : Role} {operation : Operation} {name : String} {r : Request}
    {f : r.Value → α} {log : List Event} {result : Except Failure α} {t : Store}
    (h : (request role operation name (Program.ask r) >>= fun value => pure (f value)).run.Executes
      others s log result t) :
    ∃ u, others s u ∧ log = [⟨u, r⟩] ∧
      result = ((u.serve r).1.mapError (.store role operation name)).map f ∧ t = (u.serve r).2 := by
  rcases executes_bind h with ⟨failure, hasked, rfl⟩ | ⟨log₁, log₂, value, v, rfl, hasked, h⟩
  · obtain ⟨u, hu, rfl, hresult, rfl⟩ := executes_request hasked
    exact ⟨u, hu, rfl, by rw [← hresult]; rfl, rfl⟩
  · obtain ⟨u, hu, rfl, hresult, rfl⟩ := executes_request hasked
    cases h
    exact ⟨u, hu, rfl, by rw [← hresult]; rfl, rfl⟩

/-! ## What an attempt asks -/

def Asks (allowed : Request → Prop) (post : α → Prop) (x : Attempt α) : Prop :=
  x.run.Asks allowed fun result => ∀ a, result = .ok a → post a

section Asks

variable {allowed : Request → Prop} {post : α → Prop}

theorem asks_pure {a : α} (h : post a) : (pure a : Attempt α).Asks allowed post := by
  intro b hb
  cases hb
  exact h

theorem asks_throw (failure : Failure) : (throw failure : Attempt α).Asks allowed post := by
  intro b hb
  cases hb

theorem asks_ofExcept {result : Except Failure α} (h : ∀ a, result = .ok a → post a) :
    (ofExcept result).Asks allowed post := h

theorem Asks.mono {x : Attempt α} {post' : α → Prop} (h : x.Asks allowed post)
    (himp : ∀ a, post a → post' a) : x.Asks allowed post' :=
  Program.Asks.mono h fun _ hr a ha => himp a (hr a ha)

theorem Asks.allow {x : Attempt α} {allowed' : Request → Prop} (h : x.Asks allowed post)
    (himp : ∀ r, allowed r → allowed' r) : x.Asks allowed' post :=
  Program.Asks.allow h himp

theorem asks_bind {x : Attempt α} {f : α → Attempt β} {post : β → Prop}
    (h : x.Asks allowed fun a => (f a).Asks allowed post) : (x >>= f).Asks allowed post := by
  unfold Asks
  rw [ExceptT.run_bind]
  refine Program.asks_bind (Program.Asks.mono h fun result hr => ?_)
  cases result with
  | ok a => exact hr a rfl
  | error failure => exact asks_throw (α := β) failure

theorem asks_request {role : Role} {operation : Operation} {name : String} {r : Request}
    {post : r.Value → Prop} (hr : allowed r) (h : ∀ value, post value) :
    (request role operation name (Program.ask r)).Asks allowed post :=
  Program.asks_bind (Program.asks_ask hr fun _ => Program.asks_pure fun value _ => h value)

theorem asks_within {wrap : Failure → Failure} {x : Attempt α} (h : x.Asks allowed post) :
    (within wrap x).Asks allowed post := by
  refine Program.asks_bind (Program.Asks.mono h fun result hr => Program.asks_pure ?_)
  cases result with
  | ok a => exact hr
  | error failure => intro a ha; cases ha

theorem asks_forM {l : List β} {f : β → Attempt PUnit}
    (h : ∀ b ∈ l, (f b).Asks allowed fun _ => True) : (l.forM f).Asks allowed fun _ => True := by
  induction l with
  | nil => exact asks_pure trivial
  | cons b rest ih =>
    obtain ⟨hfirst, hrest⟩ := List.forall_mem_cons.mp h
    exact asks_bind (hfirst.mono fun _ _ => ih hrest)

end Asks

end Attempt

end OdooKeeper
