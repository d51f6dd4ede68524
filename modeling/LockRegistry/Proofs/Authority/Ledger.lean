import LockRegistry.Proofs.Authority.Courses
import LockRegistry.Proofs.Mask.Kept
import LockRegistry.Proofs.Operation
import Mathlib.Order.MinMax

namespace LockRegistry

def GrantKey.kept (office user projectMask applicationMask : String) : GrantKey where
  office := Text.upper (Text.trim office)
  user := Text.trim user
  projectMask := Mask.kept projectMask
  applicationMask := Text.lower (Mask.kept applicationMask)

inductive GrantCall where
  | allow (office officeMask projectMask applicationMask user : String)
  | update (office user projectMask applicationMask officeMask : String) (allowed : Bool)
  | removeAll (office : String) (officeMask applicationMask : Option String) (user : String)

inductive GrantChange where
  | enter (key : GrantKey) (officeMask : String)
  | strike (key : GrantKey)
  | clear (office : String) (officeMask applicationMask : Mask) (user : String)

namespace GrantCall

def operation : GrantCall → Operation
  | allow office officeMask projectMask applicationMask user =>
    .allow office officeMask projectMask applicationMask user
  | update office user projectMask applicationMask officeMask allowed =>
    .update office user projectMask applicationMask officeMask allowed
  | removeAll office officeMask applicationMask user =>
    .removeAll office officeMask applicationMask user

variable [Regex.Engine]

-- The office mask counts only where a grant is made.
def Accepted : GrantCall → Prop
  | allow office officeMask projectMask applicationMask user =>
    Field.office.Takes office ∧ Field.user.Takes user ∧ Mask.Takes projectMask ∧
      Mask.Takes applicationMask ∧ Mask.Takes officeMask
  | update office user projectMask applicationMask officeMask allowed =>
    Field.office.Takes office ∧ Field.user.Takes user ∧ Mask.Takes projectMask ∧
      Mask.Takes applicationMask ∧ (allowed = true → Mask.Takes officeMask)
  | removeAll office officeMask applicationMask user =>
    Field.office.Takes office ∧ Field.user.Takes user ∧ Mask.TakesOption officeMask ∧
      Mask.TakesOption applicationMask

instance : DecidablePred Accepted
  | allow .. => inferInstanceAs (Decidable (_ ∧ _))
  | update .. => inferInstanceAs (Decidable (_ ∧ _))
  | removeAll .. => inferInstanceAs (Decidable (_ ∧ _))

def change : GrantCall → GrantChange
  | allow office officeMask projectMask applicationMask user
  | update office user projectMask applicationMask officeMask true =>
    .enter (.kept office user projectMask applicationMask) (Text.upper (Mask.kept officeMask))
  | update office user projectMask applicationMask _ false =>
    .strike (.kept office user projectMask applicationMask)
  | removeAll office officeMask applicationMask user =>
    .clear (Text.upper (Text.trim office)) (Mask.keptOption officeMask)
      (Mask.keptOption applicationMask) (Text.trim user)

end GrantCall

structure Title where
  id : Int
  officeMask : String
  createdAt : Timestamp
  updatedAt : Timestamp
deriving DecidableEq

def Title.grant (key : GrantKey) (t : Title) : Grant where
  id := t.id
  office := key.office
  officeMask := t.officeMask
  user := key.user
  projectMask := key.projectMask
  applicationMask := key.applicationMask
  createdAt := t.createdAt
  updatedAt := t.updatedAt

structure Ledger where
  title : GrantKey → Option Title
  lastId : Int
  given : ∀ key t, title key = some t → t.id ≤ lastId

namespace Ledger

def blank : Ledger := ⟨fun _ => none, 0, fun _ _ h => nomatch h⟩

variable (b : Ledger) (now : Timestamp)

def granted (key : GrantKey) (officeMask : String) : Title :=
  match b.title key with
  | some t => { t with officeMask := officeMask, updatedAt := now }
  | none => ⟨b.lastId + 1, officeMask, now, now⟩

def enter (key : GrantKey) (officeMask : String) : Ledger where
  title := Function.update b.title key (some (b.granted now key officeMask))
  lastId := max b.lastId (b.granted now key officeMask).id
  given key' t h := by
    by_cases own : key' = key
    · subst own
      rw [Function.update_self] at h
      cases h
      exact le_max_right ..
    · rw [Function.update_of_ne own] at h
      exact (b.given key' t h).trans (le_max_left ..)

def strike (struck : GrantKey → Title → Bool) : Ledger where
  title key := (b.title key).filter (!struck key ·)
  lastId := b.lastId
  given key t h := b.given key t (Option.filter_eq_some_iff.1 h).1

variable {b now}

@[simp] lemma title_enter_self (key : GrantKey) (officeMask : String) :
    (b.enter now key officeMask).title key = some (b.granted now key officeMask) :=
  Function.update_self ..

lemma title_enter_of_ne {key key' : GrantKey} (officeMask : String) (other : key' ≠ key) :
    (b.enter now key officeMask).title key' = b.title key' :=
  Function.update_of_ne other ..

lemma title_strike (struck : GrantKey → Title → Bool) (key : GrantKey) :
    (b.strike struck).title key = (b.title key).filter (!struck key ·) := rfl

lemma granted_of_held {key : GrantKey} {t : Title} (held : b.title key = some t) (now : Timestamp)
    (officeMask : String) :
    b.granted now key officeMask = { t with officeMask := officeMask, updatedAt := now } := by
  rw [granted, held]

lemma granted_of_free {key : GrantKey} (free : b.title key = none) (now : Timestamp)
    (officeMask : String) :
    b.granted now key officeMask = ⟨b.lastId + 1, officeMask, now, now⟩ := by
  rw [granted, free]

lemma title_strike_of_free {key : GrantKey} (free : b.title key = none)
    (struck : GrantKey → Title → Bool) : (b.strike struck).title key = none := by
  rw [title_strike, free]
  rfl

variable [Regex.Engine] (b now)

def clears (office : String) (officeMask applicationMask : Mask) (user : String) (key : GrantKey)
    (t : Title) : Bool :=
  key.office == office && key.user == user && officeMask.accepts t.officeMask &&
    applicationMask.accepts key.applicationMask

def cleared (office : String) (officeMask applicationMask : Mask) (user : String) : Set GrantKey :=
  {key | ∃ t, b.title key = some t ∧ clears office officeMask applicationMask user key t = true}

def after : GrantChange → Ledger
  | .enter key officeMask => b.enter now key officeMask
  | .strike key => b.strike fun key' _ => key' == key
  | .clear office officeMask applicationMask user =>
    b.strike (clears office officeMask applicationMask user)

variable {b now}

lemma lastId_le_after (b : Ledger) (now : Timestamp) (c : GrantChange) :
    b.lastId ≤ (b.after now c).lastId := by
  cases c with
  | enter key officeMask => exact le_max_left ..
  | strike key => exact le_rfl
  | clear office officeMask applicationMask user => exact le_rfl

lemma lastId_lt_of_new {c : GrantChange} {key : GrantKey} {t : Title} (free : b.title key = none)
    (made : (b.after now c).title key = some t) : b.lastId < t.id := by
  cases c with
  | enter key' officeMask =>
    rw [after] at made
    by_cases own : key = key'
    · subst own
      rw [title_enter_self, granted_of_free free] at made
      cases made
      exact Int.lt_succ _
    · rw [title_enter_of_ne officeMask own, free] at made
      cases made
  | strike key' => cases (title_strike_of_free free _).symm.trans made
  | clear office officeMask applicationMask user =>
    cases (title_strike_of_free free _).symm.trans made

lemma not_clears_of_clear {office user : String} {officeMask applicationMask : Mask}
    {key : GrantKey}
    {t : Title}
    (h : (b.after now (.clear office officeMask applicationMask user)).title key = some t) :
    clears office officeMask applicationMask user key t = false := by
  simpa using (Option.filter_eq_some_iff.1 h).2

end Ledger

end LockRegistry
