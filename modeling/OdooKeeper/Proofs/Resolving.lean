import OdooKeeper.Proofs.Resolution

/-! # How connections fail

The ways in which the connection of an app can fail to be worked out, whatever its secrets say. Which
one it was is told by the field, the sort of its cause, and the form that a value should have had. -/

namespace OdooKeeper

variable {α : Type} {s : Store} {app : App}

/-! ## Ways to fail -/

namespace Failure

/-- What sort of failure it is, whatever it tells of. -/
inductive Variant where
  | secretNotFound
  | keyNotFound
  | invalidValue
  | credentialMissing
  | connection
  | adminPasswordMissing
  | claimMissing
  | store
  | several
  | serialization
deriving DecidableEq

def variant : Failure → Variant
  | .secretNotFound _ => .secretNotFound
  | .keyNotFound _ _ => .keyNotFound
  | .invalidValue _ _ _ => .invalidValue
  | .credentialMissing => .credentialMissing
  | .connection _ _ => .connection
  | .adminPasswordMissing _ _ => .adminPasswordMissing
  | .claimMissing _ => .claimMissing
  | .store _ _ _ _ => .store
  | .several _ => .several
  | .serialization _ => .serialization

def field? : Failure → Option ConnectionField
  | .connection field _ => some field
  | _ => none

/-- Why a field could not be worked out. Any other failure is its own cause. -/
def cause : Failure → Failure
  | .connection _ cause => cause
  | failure => failure

def expected? : Failure → Option String
  | .invalidValue _ _ expected => some expected
  | _ => none

/-- The field of a failure and the variant of its cause. -/
def outline (failure : Failure) : Option ConnectionField × Variant :=
  (failure.field?, failure.cause.variant)

/-- The outline of a failure, and what form a value that is not valid should have had. -/
def outlineWithForm (failure : Failure) :
    (Option ConnectionField × Variant) × Option String :=
  (failure.outline, failure.cause.expected?)

end Failure

/-- What is told of a result: nothing but that it is one, or of a failure what one tells of that. -/
def Attempt.told {σ : Type} (tell : Failure → σ) : Except Failure α → Option σ
  | .ok _ => none
  | .error failure => some (tell failure)

/-! ### Failures of the connection -/

/-- The ways in which a reference can fail to be read, whatever the secret says. -/
inductive SecretRef.Fails (ref : SecretRef) : Failure → Prop where
  | secret : Fails ref (.secretNotFound ref.name)
  | key : Fails ref (.keyNotFound ref.name ref.key)
  | value (expected : String) : Fails ref (.invalidValue ref.name ref.key expected)

/-- The ways in which a field of the connection can fail to be worked out. -/
def DatabaseSettings.Fails (db : DatabaseSettings) (field : ConnectionField) (cause : Failure) :
    Prop :=
  cause = .credentialMissing ∨ ∃ set, setRef? (db.ref? field) = some set ∧ set.Fails cause

theorem DatabaseSettings.Fails.eq {db : DatabaseSettings} {field field' : ConnectionField}
    {cause cause' : Failure} (h : db.Fails field cause) (h' : db.Fails field' cause')
    (hsame : (Failure.connection field' cause').outlineWithForm =
      (Failure.connection field cause).outlineWithForm) :
    Failure.connection field' cause' = .connection field cause := by
  simp only [Failure.outlineWithForm, Failure.outline, Failure.field?, Failure.cause, Prod.mk.injEq,
    Option.some.injEq] at hsame
  obtain ⟨⟨rfl, hvariant⟩, hform⟩ := hsame
  refine congrArg (Failure.connection field') ?_
  rcases h with rfl | ⟨set, hset, hfails⟩ <;> rcases h' with rfl | ⟨set', hset', hfails'⟩
  · rfl
  · cases hfails' <;> cases hvariant
  · cases hfails <;> cases hvariant
  · obtain rfl : set' = set := Option.some.inj (hset'.symm.trans hset)
    cases hfails <;> cases hfails' <;> cases hvariant
    · rfl
    · rfl
    · cases hform
      rfl

theorem App.Resolves.fails {field : ConnectionField} {cause : Failure}
    (h : app.Resolves s field (.error cause)) (hs : s.refusals = []) :
    app.content.spec.database.Fails field cause := by
  cases h with
  | missing => exact .inl rfl
  | @referenced ref set _ reads _ takes =>
    refine .inr ⟨ref, App.sets_iff.mp set, ?_⟩
    cases takes with
    | invalid => exact .value _
    | unread =>
      cases reads with
      | refused hrefused => exact absurd hrefused (Store.not_refuses hs _)
      | absent => exact .secret
      | found _ _ finds =>
        cases finds with
        | keyless => exact .key
        | garbled => exact .value _

theorem Connection.resolve_fails {failure : Failure} (hs : s.refusals = [])
    (h : ((Connection.resolve app).run.run s).1 = .error failure) :
    ∃ field cause, failure = .connection field cause ∧
      app.content.spec.database.Fails field cause := by
  obtain ⟨result, reads, houtcome, hrun⟩ := Connection.resolve_ends app s
  have hresult : ((Connection.resolve app).run.run s).1 = result := congrArg Prod.fst (hrun s.calls)
  rw [h] at hresult
  subst hresult
  cases houtcome with
  | failed hfails => exact ⟨_, _, rfl, hfails.fails hs⟩

end OdooKeeper
