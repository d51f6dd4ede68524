import LockRegistry.Op

/-! The registry of grants. A grant that covers a key is the only thing that gives the right to
revoke its lock. -/

namespace LockRegistry

namespace Authority

variable [Regex.Engine]

def event (level : LogLevel) (message : String) (fields : List (String × LogValue)) : LogEvent where
  level := level
  source := .rights
  message := message
  fields := fields

def allow (office officeMask projectMask applicationMask user : String) : Op Grant := do
  let key ← .check (GrantKey.ofRaw office user projectMask applicationMask)
  let new ← .check (NewGrant.ofRaw key officeMask)
  let grant : Grant ← .ask (.upsertGrant new)
  .emit (event .info "Lock revoker right granted"
    [("office_id", .shown grant.office), ("user_id", .shown grant.user),
      ("office_mask", .shown grant.officeMask), ("project_mask", .shown grant.projectMask),
      ("application_mask", .shown grant.applicationMask)])
  return grant

def disallow (office user projectMask applicationMask : String) : Op Unit := do
  let key ← .check (GrantKey.ofRaw office user projectMask applicationMask)
  let removed : Bool ← .ask (.deleteGrant key)
  if removed then
    .emit (event .info "Lock revoker right removed"
      [("office_id", .shown key.office), ("user_id", .shown key.user),
        ("project_mask", .shown key.projectMask), ("application_mask", .shown key.applicationMask)])
  else
    .emit (event .debug "No lock revoker right to remove"
      [("office_id", .shown key.office), ("user_id", .shown key.user)])

def update (office user projectMask applicationMask officeMask : String) (allowed : Bool) :
    Op Unit := do
  if allowed then
    let _ ← allow office officeMask projectMask applicationMask user
    return ()
  else disallow office user projectMask applicationMask

def removeAll (office : String) (officeMask applicationMask : Option String) (user : String) :
    Op Nat := do
  let office ← .check (Field.office.normalize office)
  let user ← .check (Field.user.normalize user)
  let officeMask ← .check (Mask.ofOption officeMask)
  let applicationMask ← .check (Mask.ofOption applicationMask)
  let removed : Nat ← .ask (.deleteGrants office officeMask applicationMask user)
  .emit (event .info "Lock revoker rights removed"
    [("office_id", .shown office), ("user_id", .shown user),
      ("office_mask", .shown officeMask.pattern),
      ("application_mask", .shown applicationMask.pattern), ("removed", .int removed)])
  return removed

def firstCovering (office project application : String) :
    List Grant → Except ArgumentError (Option Grant)
  | [] => .ok none
  | g :: rest => do
    if ← g.covers office project application then return some g
    else firstCovering office project application rest

def caller? : Option String → Except ArgumentError (Option String)
  | none => .ok none
  | some raw => if (Text.trim raw).isEmpty then .ok none else (Field.user.normalize raw).map some

def mayRevoke (office : String) (user : Option String) (project application : String) :
    Op Bool := do
  let office ← .check (Field.office.normalize office)
  let project ← .check (Field.project.normalize project)
  let application ← .check (Field.application.normalize application)
  match ← .check (caller? user) with
  | none =>
    .emit (event .debug "Anonymous caller has no revoker rights" [("office_id", .shown office)])
    return false
  | some user =>
    let grants : List Grant ← .ask (.grantsOf user)
    match ← .check (firstCovering office project application grants) with
    | none => return false
    | some grant =>
      .emit (event .debug "Revoker right matched"
        [("office_id", .shown office), ("user_id", .shown user), ("grant_id", .int grant.id)])
      return true

def list (filter : CatalogFilter) : Op (List Grant) := .ask (.listGrants filter)

end Authority

end LockRegistry
