import LockRegistry.Database.Query
import LockRegistry.Database.ResultSet
import LockRegistry.Database.Tables
import LockRegistry.Proofs.Checks
import LockRegistry.Proofs.Database.Like
import LockRegistry.Proofs.Store.Values

namespace LockRegistry.Database

def Value.ofTime : Option Timestamp → Value
  | none => null
  | some t => time t

namespace Row

def ofLock (l : Lock) : Row where
  value
    | .lockId => .text l.lockId
    | .office => .text l.office
    | .project => .text l.project
    | .application => .text l.application
    | .acquireTime => .time l.acquireTime
    | .sessionUser => .ofText l.session.sessionUser
    | .osUser => .ofText l.session.osUser
    | .program => .ofText l.session.program
    | .machine => .ofText l.session.machine
    | .revokeRequestedBy => .ofText l.revokeRequestedBy
    | .revokeRequestedAt => .ofTime l.revokeRequestedAt
    | _ => .null

def ofGrant (g : Grant) : Row where
  value
    | .id => .int g.id
    | .office => .text g.office
    | .officeMask => .text g.officeMask
    | .user => .text g.user
    | .projectMask => .text g.projectMask
    | .applicationMask => .text g.applicationMask
    | .createdAt => .time g.createdAt
    | .updatedAt => .time g.updatedAt
    | _ => .null

end Row

section Records

variable {α : Type} {r : Relation} {row : Row} {c : Column} {a : α} {f : FieldType α}

def Relation.record (r : Relation) (row : Row) : Record :=
  ⟨r.resultColumns, r.columns.map row.value⟩

lemma Relation.find?_columns (r : Relation) :
    ∀ c ∈ r.columns, r.columns.reverse.find? (fun d => d.name == c.name) = some c := by
  cases r <;> decide

lemma cell_record (mem : c ∈ r.columns) :
    (r.record row).cell c = .ok (c.asResult, row.value c) := by
  have cells : (r.record row).cells = r.columns.map fun d => (d.asResult, row.value d) :=
    List.zip_map' ..
  have found : (r.record row).cells.reverse.find? (·.1.name == c.name) =
      some (c.asResult, row.value c) := by
    rw [cells, ← List.map_reverse, List.find?_map]
    exact congrArg (Option.map _) (r.find?_columns c mem)
  rw [Record.cell, found]
  rfl

lemma read_some {valueType : String} {ref : ColumnRef} {v : Value}
    (typed : f.accepts c.type = true) (value : f.value? v = some a) (filled : v ≠ .null) :
    f.read valueType ref (c.asResult, v) = .ok (some a) := by
  have accepted : f.accepts c.asResult.type = true := typed
  rw [FieldType.read, if_neg filled, if_pos accepted, value]

lemma required_record (mem : c ∈ r.columns) (typed : f.accepts c.type = true)
    (value : f.value? (row.value c) = some a) (filled : row.value c ≠ .null) :
    (r.record row).required f c = .ok a := by
  rw [Record.required, cell_record mem, ok_bind, FieldType.required, read_some typed value filled]
  rfl

lemma optional_record {o : Option α} (mem : c ∈ r.columns) (typed : f.accepts c.type = true)
    (value : o.elim (row.value c = .null) fun a => f.value? (row.value c) = some a ∧
      row.value c ≠ .null) :
    (r.record row).optional f c = .ok o := by
  rw [Record.optional, cell_record mem, ok_bind, FieldType.optional]
  cases o with
  | none => exact if_pos value
  | some a => exact read_some typed value.1 value.2

lemma optional_text {o : Option String} (mem : c ∈ r.columns) (typed : c.type = .text)
    (value : row.value c = .ofText o) : (r.record row).optional .text c = .ok o := by
  refine optional_record mem (by rw [typed]; rfl) ?_
  rw [value]
  cases o with
  | none => rfl
  | some s => exact ⟨rfl, nofun⟩

lemma optional_time {o : Option Timestamp} (mem : c ∈ r.columns) (typed : c.type = .timestamptz)
    (value : row.value c = .ofTime o) : (r.record row).optional .time c = .ok o := by
  refine optional_record mem (by rw [typed]; rfl) ?_
  rw [value]
  cases o with
  | none => rfl
  | some t => exact ⟨rfl, nofun⟩

lemma lock_record (l : Lock) : (Relation.locks.record (.ofLock l)).lock = .ok l := by
  have text (c : Column) (s : String) (mem : c ∈ Relation.locks.columns) (typed : c.type = .text)
      (value : (Row.ofLock l).value c = .text s) :
      (Relation.locks.record (.ofLock l)).required .text c = .ok s :=
    required_record mem (by rw [typed]; rfl) (by rw [value]; rfl) (by rw [value]; nofun)
  have mayText (c : Column) (s : Option String) (mem : c ∈ Relation.locks.columns)
      (typed : c.type = .text) (value : (Row.ofLock l).value c = .ofText s) :
      (Relation.locks.record (.ofLock l)).optional .text c = .ok s := optional_text mem typed value
  have time : (Relation.locks.record (.ofLock l)).required .time .acquireTime = .ok l.acquireTime :=
    required_record (by decide) rfl rfl nofun
  have mayTime : (Relation.locks.record (.ofLock l)).optional .time .revokeRequestedAt =
      .ok l.revokeRequestedAt := optional_time (by decide) rfl rfl
  simp only [Record.lock, time, mayTime, text .lockId l.lockId (by decide) rfl rfl,
    text .office l.office (by decide) rfl rfl, text .project l.project (by decide) rfl rfl,
    text .application l.application (by decide) rfl rfl,
    mayText .sessionUser l.session.sessionUser (by decide) rfl rfl,
    mayText .osUser l.session.osUser (by decide) rfl rfl,
    mayText .program l.session.program (by decide) rfl rfl,
    mayText .machine l.session.machine (by decide) rfl rfl,
    mayText .revokeRequestedBy l.revokeRequestedBy (by decide) rfl rfl, ok_bind]
  rfl

lemma grant_record (g : Grant) : (Relation.grants.record (.ofGrant g)).grant = .ok g := by
  have text (c : Column) (s : String) (mem : c ∈ Relation.grants.columns) (typed : c.type = .text)
      (value : (Row.ofGrant g).value c = .text s) :
      (Relation.grants.record (.ofGrant g)).required .text c = .ok s :=
    required_record mem (by rw [typed]; rfl) (by rw [value]; rfl) (by rw [value]; nofun)
  have time (c : Column) (t : Timestamp) (mem : c ∈ Relation.grants.columns)
      (typed : c.type = .timestamptz) (value : (Row.ofGrant g).value c = .time t) :
      (Relation.grants.record (.ofGrant g)).required .time c = .ok t :=
    required_record mem (by rw [typed]; rfl) (by rw [value]; rfl) (by rw [value]; nofun)
  have int : (Relation.grants.record (.ofGrant g)).required .int .id = .ok g.id :=
    required_record (by decide) rfl rfl nofun
  simp only [Record.grant, int, text .office g.office (by decide) rfl rfl,
    text .officeMask g.officeMask (by decide) rfl rfl, text .user g.user (by decide) rfl rfl,
    text .projectMask g.projectMask (by decide) rfl rfl,
    text .applicationMask g.applicationMask (by decide) rfl rfl,
    time .createdAt g.createdAt (by decide) rfl rfl,
    time .updatedAt g.updatedAt (by decide) rfl rfl, ok_bind]
  rfl

end Records

section Conditions

variable {row : Row} {columns : List Column} {params : List String} {statement : Statement}

lemma param_ofTexts (statement : Statement) (params : List String) (n : Nat) :
    (Query.ofTexts statement params).param (n + 1) = .ofText params[n]? := by
  rw [Query.param, Query.ofTexts, Nat.add_sub_cancel, List.getElem?_map]
  cases params[n]? <;> rfl

lemma holds_equals {c : Column} {s : String} (value : row.value c = .text s) (n : Nat) :
    (Condition.equals c (n + 1)).holds (.ofTexts statement params) row =
      params[n]?.any (s == ·) := by
  rw [Condition.holds, param_ofTexts, Row.isNull, value, Bool.eq_iff_iff]
  cases params[n]? <;> simp [Value.ofText]

lemma all_equals (filled : ∀ c ∈ columns, ∃ s, row.value c = .text s) (k : Nat) :
    (columns.zipIdx k).all (fun c => (Condition.equals c.1 (c.2 + 1)).holds
        (.ofTexts statement params) row) =
      (row.texts columns == (params.drop k).take columns.length) := by
  induction columns generalizing k with
  | nil => rfl
  | cons c columns ih =>
    obtain ⟨⟨s, value⟩, rest⟩ := List.forall_mem_cons.1 filled
    have texts : row.texts (c :: columns) = s :: row.texts columns := by
      rw [Row.texts, List.map_cons, value]
      rfl
    rw [List.zipIdx_cons, List.all_cons, holds_equals value, ih rest, texts]
    cases param : params[k]? with
    | none =>
      rw [List.drop_eq_nil_of_le (List.getElem?_eq_none_iff.1 param)]
      rfl
    | some p =>
      obtain ⟨short, rfl⟩ := List.getElem?_eq_some_iff.1 param
      rw [List.drop_eq_getElem_cons short]
      rfl

lemma satisfies_equal (filled : ∀ c ∈ columns, ∃ s, row.value c = .text s) :
    row.satisfies (.ofTexts statement params) (Query.equal columns) =
      (row.texts columns == params.take columns.length) := by
  rw [Row.satisfies, Query.equal, List.all_map]
  exact all_equals filled 0

lemma satisfies_onKey (l : Lock) (key : LockKey) :
    (Row.ofLock l).satisfies (.ofTexts statement (Query.keyParams key)) Query.onKey =
      (l.key == key) := by
  rw [Query.onKey, satisfies_equal (by simp [Relation.key, Row.ofLock]), Bool.eq_iff_iff,
    beq_iff_eq, beq_iff_eq]
  exact ⟨@LockKey.parts_inj l.key key, congrArg LockKey.parts⟩

lemma satisfies_named (l : Lock) (office lockId : String) :
    (Row.ofLock l).satisfies (.ofTexts statement [office, lockId]) Query.named =
      l.isNamed office lockId := by
  rw [Query.named, satisfies_equal (by simp [Row.ofLock]), Lock.isNamed,
    ← Bool.and_true (l.lockId == lockId)]
  rfl

lemma satisfies_markRevocation (l : Lock) (key : LockKey) (lockId user : String) :
    (Row.ofLock l).satisfies (Query.markRevocation key lockId user)
        (Query.equal (Relation.locks.key ++ [.lockId])) =
      (l.key == key && l.lockId == lockId) := by
  rw [Query.markRevocation, satisfies_equal (by simp [Relation.key, Row.ofLock]), Bool.eq_iff_iff,
    Bool.and_eq_true, beq_iff_eq, beq_iff_eq, beq_iff_eq, ← Lock.isFor_iff]
  simp [Lock.isFor, Row.texts, Row.ofLock, Relation.key, Value.text?, Query.keyParams, and_assoc]

lemma satisfies_grantKey (g : Grant) (key : GrantKey) :
    (Row.ofGrant g).satisfies (.ofTexts statement key.parts)
        (Query.equal Relation.grants.key) =
      (g.key == key) := by
  rw [satisfies_equal (by simp [Relation.key, Row.ofGrant]), Bool.eq_iff_iff, beq_iff_eq,
    beq_iff_eq]
  exact ⟨@GrantKey.parts_inj g.key key, congrArg GrantKey.parts⟩

lemma satisfies_user (g : Grant) (user : String) :
    (Row.ofGrant g).satisfies (.ofTexts statement [user]) (Query.equal [.user]) =
      (g.user == user) := by
  rw [satisfies_equal (by simp [Row.ofGrant]), ← Bool.and_true (g.user == user)]
  rfl

variable [Regex.Engine]

lemma holds_like {c : Column} {s : String} {m : Mask} {n : Nat} (value : row.value c = .text s)
    (param : params[n]? = some m.like) :
    (Condition.like c (n + 1)).holds (.ofTexts statement params) row = m.accepts s := by
  rw [Condition.holds, param_ofTexts, param, value, Bool.eq_iff_iff, ← Mask.satisfies_like_iff]
  exact Like.accepts_iff_satisfies ..

lemma satisfies_alike {c c' c'' : Column} {s s' s'' : String} (value : row.value c = .text s)
    (value' : row.value c' = .text s') (value'' : row.value c'' = .text s'') (f : CatalogFilter) :
    row.satisfies (.ofTexts statement (Query.filterParams f)) (Query.alike [c, c', c'']) =
      f.accepts s s' s'' := by
  simp only [Row.satisfies, Query.alike, List.zipIdx_cons, List.zipIdx_nil, List.map_cons,
    List.map_nil, List.all_cons, List.all_nil]
  rw [holds_like value rfl, holds_like value' rfl, holds_like value'' rfl,
    CatalogFilter.accepts, Bool.and_true, Bool.and_assoc]

lemma satisfies_filter_lock (l : Lock) (f : CatalogFilter) :
    (Row.ofLock l).satisfies (.ofTexts statement (Query.filterParams f))
      (Query.alike Relation.locks.key) = f.accepts l.office l.project l.application :=
  satisfies_alike rfl rfl rfl f

lemma satisfies_filter_grant (g : Grant) (f : CatalogFilter) :
    (Row.ofGrant g).satisfies (.ofTexts statement (Query.filterParams f))
        (Query.alike [.office, .projectMask, .applicationMask]) =
      f.accepts g.office g.projectMask g.applicationMask :=
  satisfies_alike rfl rfl rfl f

lemma satisfies_deleteGrants (g : Grant) (office : String) (officeMask applicationMask : Mask)
    (user : String) :
    (Row.ofGrant g).satisfies (Query.deleteGrants office officeMask applicationMask user)
        [.equals .office 1, .equals .user 2, .like .officeMask 3, .like .applicationMask 4] =
      Store.isCleared office officeMask applicationMask user g := by
  simp only [Row.satisfies, List.all_cons, List.all_nil]
  rw [Query.deleteGrants, holds_equals rfl, holds_equals rfl, holds_like rfl rfl,
    holds_like rfl rfl, Store.isCleared, Bool.and_true, Bool.and_assoc, Bool.and_assoc]
  rfl

end Conditions

section Changes

variable {l l' : Lock} {g g' : Grant} {now : Timestamp}

lemma agrees_newLock (l : Lock) (new : NewLock) :
    (Row.ofLock l).agrees (.ofLock (new.toLock now)) Relation.locks.key = (l.key == new.key) := by
  rw [Bool.eq_iff_iff]
  obtain ⟨lockId, ⟨office, project, application⟩, session⟩ := new
  simp [Row.agrees, Row.ofLock, Relation.key, Lock.key, NewLock.toLock]

lemma agrees_lockId :
    (Row.ofLock l).agrees (.ofLock l') [Relation.locks.primaryKey.1] = (l.lockId == l'.lockId) := by
  rw [Bool.eq_iff_iff]
  simp [Row.agrees, Row.ofLock, Relation.primaryKey]

lemma agrees_newGrant (ρ : Int → Int) (g : Grant) (new : NewGrant) (id : Int) :
    (Row.ofGrant (g.renumbered ρ)).agrees (.ofGrant (new.toGrant id now)) Relation.grants.key =
      (g.key == new.key) := by
  rw [Bool.eq_iff_iff]
  obtain ⟨⟨office, user, projectMask, applicationMask⟩, officeMask⟩ := new
  simp [Row.agrees, Row.ofGrant, Relation.key, Grant.key, Grant.renumbered, NewGrant.toGrant]

lemma agrees_grantId :
    (Row.ofGrant g).agrees (.ofGrant g') [Relation.grants.primaryKey.1] = (g.id == g'.id) := by
  rw [Bool.eq_iff_iff]
  simp [Row.agrees, Row.ofGrant, Relation.primaryKey]

lemma brokenCheck?_ofLock (named : isLockId l.lockId = true)
    (stamp : l.revokeRequestedBy.isSome = l.revokeRequestedAt.isSome) :
    Relation.locks.brokenCheck? (.ofLock l) = none := by
  have pair : (Row.ofLock l).isNull .revokeRequestedBy =
      (Row.ofLock l).isNull .revokeRequestedAt := by
    cases hb : l.revokeRequestedBy <;> cases ha : l.revokeRequestedAt <;>
      simp_all [Row.isNull, Row.ofLock, Value.ofText, Value.ofTime]
  rw [Relation.brokenCheck?, pair]
  simp [Row.ofLock, Value.text?, named]

lemma complete_lock (t : Tables) (now : Timestamp) (l : NewLock) :
    t.complete now (.ofParams Query.lockColumns (Query.insertLock l)) .locks =
      (.ofLock (l.toLock now), t) := by
  refine congrArg (·, t) (Row.ext (funext fun c => ?_))
  cases c <;> rfl

lemma complete_grant (t : Tables) (now : Timestamp) (g : NewGrant) :
    t.complete now (.ofParams Query.grantColumns (Query.upsertGrant g)) .grants =
      (.ofGrant (g.toGrant (t.lastId + 1) now), { t with lastId := t.lastId + 1 }) := by
  refine congrArg (·, _) (Row.ext (funext fun c => ?_))
  cases c <;> rfl

lemma assign_stamp (key : LockKey) (lockId user : String) (proposed : Row) :
    (Row.ofLock l).assign proposed (Query.markRevocation key lockId user) now
        [⟨.revokeRequestedBy, .param 5⟩, ⟨.revokeRequestedAt, .now⟩] =
      .ofLock (l.stamped user now) := by
  refine Row.ext (funext fun c => ?_)
  cases c <;> rfl

lemma assign_refresh (q : Query) :
    (Row.ofGrant g).assign (.ofGrant g') q now [⟨.officeMask, .proposed⟩, ⟨.updatedAt, .now⟩] =
      .ofGrant (g.refreshed g'.officeMask now) := by
  refine Row.ext (funext fun c => ?_)
  cases c <;> rfl

end Changes

end LockRegistry.Database
