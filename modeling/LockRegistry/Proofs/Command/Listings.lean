import LockRegistry.Proofs.Command.Truthful
import LockRegistry.Proofs.Locking.Catalog
import LockRegistry.Proofs.Sessions.Kept
import LockRegistry.Proofs.Store.Values
import LockRegistry.Proofs.Text.Split
import LockRegistry.Proofs.Time.Reading
import LockRegistry.Regex.Runner

/-! The catalog of locks as a text, read back. The marks that divide it are printed as they are
where they stand in a name. -/

namespace LockRegistry

open Text

section Characters

def isTimeChar (c : Char) : Bool := c.isDigit || "T:.+-".toList.contains c

@[simp] lemma all_padded (width n : Nat) : (padded width n).toList.all isTimeChar = true := by
  rw [List.all_eq_true]
  intro c hc
  rw [isTimeChar, isDigit_of_mem_padded hc, Bool.true_or]

lemma all_yearText (year : Int) : (Time.yearText year).toList.all isTimeChar = true := by
  unfold Time.yearText
  split
  · exact all_padded ..
  · split <;> simp [isTimeChar]

lemma all_fractionText (nanos : Nat) : (Time.fractionText nanos).toList.all isTimeChar = true := by
  unfold Time.fractionText
  repeat' split
  all_goals simp [isTimeChar]

lemma all_offsetText (offset : Int) : (Time.offsetText offset).toList.all isTimeChar = true := by
  unfold Time.offsetText
  split <;> simp [isTimeChar, toString]

lemma ZonedTime.all_text (z : ZonedTime) : z.text.toList.all isTimeChar = true := by
  have date (d : Time.Date) : (Time.dateText d).toList.all isTimeChar = true := by
    simp [Time.dateText, toString, all_yearText, isTimeChar]
  rw [text, clock, String.toList_append, Time.toList_localText, Time.toList_clockText]
  simp [date, all_fractionText, all_offsetText, isTimeChar]

lemma not_mem_of_all {p : Char → Bool} {cs : List Char} {c : Char} (all : cs.all p = true)
    (other : p c = false) : c ∉ cs := fun mem => by
  cases other.symm.trans (List.all_eq_true.1 all c mem)

lemma all_of_isLockId {lockId : String} (h : isLockId lockId = true) :
    lockId.toList.all isLockIdChar = true := by
  rw [isLockId, Bool.and_eq_true] at h
  exact h.2

end Characters

namespace LockKey

variable {a b k : LockKey}

lemma toList_text (k : LockKey) : k.text.toList = ['/'].intercalate k.codePoints := by
  simp [text, codePoints, parts, toString, List.intercalate]

lemma codePoints_inj (h : a.codePoints = b.codePoints) : a = b :=
  parts_inj (List.map_injective_iff.2 (fun _ _ => String.toList_injective) h)

def Plain (k : LockKey) : Prop := ∀ p ∈ k.codePoints, '/' ∉ p

def Led (k : LockKey) : Prop := '/' ∉ k.office.toList ∧ '/' ∉ k.project.toList

lemma splitOn_path (k : LockKey) :
    List.splitOn '/' (['/'].intercalate k.codePoints) = k.codePoints ↔ k.Plain :=
  splitOn_intercalate_iff (List.cons_ne_nil _ _)

lemma Plain.eq_of_text (plain : a.Plain) (same : a.text = b.text) : a = b := by
  have texts : ['/'].intercalate a.codePoints = ['/'].intercalate b.codePoints := by
    rw [← toList_text, ← toList_text, same]
  have pieces := a.splitOn_path.2 plain
  rw [texts] at pieces
  -- the two texts have as many slashes, and one key accounts for only two
  have plain' : b.Plain := by
    refine length_flatMap_splitOn.1 ?_
    rw [← splitOn_intercalate_eq (show b.codePoints ≠ [] from List.cons_ne_nil _ _), pieces]
    rfl
  exact codePoints_inj (pieces.symm.trans (b.splitOn_path.2 plain'))

lemma Led.splitOn_text (led : k.Led) : List.splitOn '/' k.text.toList =
    k.office.toList :: k.project.toList :: List.splitOn '/' k.application.toList := by
  have path : k.text.toList =
      k.office.toList ++ '/' :: (k.project.toList ++ '/' :: k.application.toList) := by
    simp [text, toString]
  rw [path, List.splitOn_append_cons_self_of_not_mem led.1,
    List.splitOn_append_cons_self_of_not_mem led.2]

lemma Led.eq_of_text (led : a.Led) (led' : b.Led) (same : a.text = b.text) : a = b := by
  have pieces := led.splitOn_text
  rw [same, led'.splitOn_text] at pieces
  obtain ⟨office, pieces⟩ := List.cons.inj pieces
  obtain ⟨project, pieces⟩ := List.cons.inj pieces
  have application := congrArg ['/'].intercalate pieces
  rw [List.intercalate_splitOn, List.intercalate_splitOn] at application
  refine codePoints_inj ?_
  simp [codePoints, parts, office, project, application]

end LockKey

namespace Lock

def texts (l : Lock) : List String :=
  l.key.parts ++ l.session.sessionUser.toList ++ l.revokeRequestedBy.toList

def OneLine (l : Lock) : Prop := ∀ s ∈ l.texts, '\n' ∉ s.toList

structure Plain (l : Lock) : Prop where
  key : l.key.Plain
  keyTabs : ∀ p ∈ l.key.codePoints, '\t' ∉ p
  userTabs : ∀ u ∈ l.session.sessionUser.toList, '\t' ∉ u.toList

end Lock

namespace LockListing

variable {x : LockListing}

-- Divided by tabs into a path, whose parts are those of the key, the id of the lock, its time, the
-- user of its session, and perhaps more.
def Tells (x : LockListing) (line : List Char) : Prop :=
  ∃ path rest, line.splitOn '\t' = path :: x.lock.lockId.toList :: x.acquireTime.text.toList ::
      (x.lock.session.sessionUser.getD "-").toList :: rest ∧
    path.splitOn '/' = x.lock.key.codePoints

def note (x : LockListing) : List String :=
  (x.lock.revokeRequestedBy.map ("revoke requested by " ++ ·)).toList

def fields (x : LockListing) : List (List Char) :=
  ['/'].intercalate x.lock.key.codePoints :: x.lock.lockId.toList :: x.acquireTime.text.toList ::
    (x.lock.session.sessionUser.getD "-").toList :: x.note.map String.toList

def line (x : LockListing) : List Char := ['\t'].intercalate x.fields

lemma toList_listingLine (x : LockListing) : (Answer.listingLine x).toList = x.line := by
  have path : (Answer.lockPath x.lock).toList = ['/'].intercalate x.lock.key.codePoints :=
    x.lock.key.toList_text
  unfold Answer.listingLine line fields note
  rw [← path]
  cases x.lock.revokeRequestedBy <;> simp [List.intercalate]

lemma not_mem_path {c : Char} {k : LockKey} (other : c ≠ '/') :
    c ∉ ['/'].intercalate k.codePoints ↔ ∀ p ∈ k.codePoints, c ∉ p := by
  rw [mem_intercalate other]
  simp

lemma not_mem_line (named : isLockId x.lock.lockId = true) : '\n' ∉ x.line ↔ x.lock.OneLine := by
  have id := not_mem_of_all (all_of_isLockId named) (show isLockIdChar '\n' = false by decide)
  have time := not_mem_of_all x.acquireTime.all_text (show isTimeChar '\n' = false by decide)
  have path : '\n' ∉ ['/'].intercalate x.lock.key.codePoints ↔
      ∀ s ∈ x.lock.key.parts, '\n' ∉ s.toList := by
    rw [not_mem_path (by decide), LockKey.codePoints, List.forall_mem_map]
  have user : '\n' ∉ (x.lock.session.sessionUser.getD "-").toList ↔
      ∀ s ∈ x.lock.session.sessionUser.toList, '\n' ∉ s.toList := by
    cases x.lock.session.sessionUser <;> simp
  have note : (∀ s ∈ x.note, '\n' ∉ s.toList) ↔
      ∀ s ∈ x.lock.revokeRequestedBy.toList, '\n' ∉ s.toList := by
    unfold LockListing.note
    cases x.lock.revokeRequestedBy <;> simp
  have fields : '\n' ∉ x.line ↔ ∀ f ∈ x.fields, '\n' ∉ f := by
    rw [line, mem_intercalate (by decide)]
    simp
  rw [fields]
  simp only [Lock.OneLine, Lock.texts, LockListing.fields, List.forall_mem_append,
    List.forall_mem_cons, List.forall_mem_map, path, id, time, user, note, not_false_eq_true,
    true_and, and_assoc]

lemma tells_line (named : isLockId x.lock.lockId = true) : x.Tells x.line ↔ x.lock.Plain := by
  have id := not_mem_of_all (all_of_isLockId named) (show isLockIdChar '\t' = false by decide)
  have time := not_mem_of_all x.acquireTime.all_text (show isTimeChar '\t' = false by decide)
  constructor
  · rintro ⟨path, rest, fields, parts⟩
    have own : path = ['/'].intercalate x.lock.key.codePoints := by
      rw [← parts, List.intercalate_splitOn]
    have tabs {f : List Char} (mem : f ∈ path :: x.lock.lockId.toList ::
        x.acquireTime.text.toList :: (x.lock.session.sessionUser.getD "-").toList :: rest) :
        '\t' ∉ f :=
      not_mem_of_mem_splitOn (fields ▸ mem)
    refine ⟨fun p mem => not_mem_of_mem_splitOn (parts ▸ mem), ?_, fun u mem => ?_⟩
    · exact (not_mem_path (by decide)).1 (own ▸ tabs (by simp))
    · have user := tabs (f := (x.lock.session.sessionUser.getD "-").toList) (by simp)
      rwa [Option.mem_toList.1 mem] at user
  · rintro ⟨key, keyTabs, userTabs⟩
    have path := (not_mem_path (k := x.lock.key) (show '\t' ≠ '/' by decide)).2 keyTabs
    have user : '\t' ∉ (x.lock.session.sessionUser.getD "-").toList := by
      cases given : x.lock.session.sessionUser with
      | none => decide
      | some u => exact userTabs u (Option.mem_toList.2 given)
    refine ⟨_, (x.note.map String.toList).flatMap (List.splitOn '\t'), ?_,
      x.lock.key.splitOn_path.2 key⟩
    rw [line, splitOn_intercalate_eq (show x.fields ≠ [] from List.cons_ne_nil _ _)]
    simp only [fields, List.flatMap_cons, List.splitOn_eq_singleton path,
      List.splitOn_eq_singleton id, List.splitOn_eq_singleton time, List.splitOn_eq_singleton user,
      List.singleton_append]

end LockListing

namespace Answer

variable {listings : List LockListing}

def lines (a : Answer) : List (List Char) := (a.output.toList.splitOn '\n').dropLast

lemma lines_locks (nonempty : listings ≠ []) : (locks .text listings).lines =
    List.splitOn '\n' (['\n'].intercalate (listings.map LockListing.line)) := by
  have output : (locks .text listings).output.toList =
      ['\n'].intercalate (listings.map LockListing.line) ++ '\n' :: [] := by
    have lines : (listings.map listingLine).isEmpty = false := by simpa using nonempty
    rw [locks, print, catalog, if_neg (by rw [lines]; exact Bool.false_ne_true)]
    simp [String.toList_intercalate, Function.comp_def, LockListing.toList_listingLine]
  rw [Answer.lines, output, List.splitOn_append_cons_self, List.splitOn_nil, List.dropLast_concat]

end Answer

lemma length_lines (named : ∀ x ∈ listings, isLockId x.lock.lockId = true)
    (nonempty : listings ≠ []) :
    (Answer.locks .text listings).lines.length = listings.length ↔
      ∀ x ∈ listings, x.lock.OneLine := by
  have lines : listings.map LockListing.line ≠ [] := by simpa using nonempty
  have count : listings.length = (listings.map LockListing.line).length := by rw [List.length_map]
  rw [Answer.lines_locks nonempty, splitOn_intercalate_eq lines, count, length_flatMap_splitOn,
    List.forall_mem_map]
  exact forall₂_congr fun x mem => LockListing.not_mem_line (named x mem)

lemma lines_tell (named : ∀ x ∈ listings, isLockId x.lock.lockId = true)
    (nonempty : listings ≠ []) (oneLine : ∀ x ∈ listings, x.lock.OneLine) :
    List.Forall₂ (fun line x => x.Tells line ↔ x.lock.Plain)
      (Answer.locks .text listings).lines listings := by
  have lines : listings.map LockListing.line ≠ [] := by simpa using nonempty
  have whole : ∀ line ∈ listings.map LockListing.line, '\n' ∉ line :=
    List.forall_mem_map.2 fun x mem => (LockListing.not_mem_line (named x mem)).2 (oneLine x mem)
  rw [Answer.lines_locks nonempty, List.splitOn_intercalate _ whole lines,
    List.forall₂_map_left_iff, List.forall₂_same]
  exact fun x mem => LockListing.tells_line (named x mem)

variable [Regex.Engine]

lemma Sessions.kept_run {ι : Type} [DecidableEq ι] {calls : ι → Operation}
    (valid : ValidIds calls) (h : List (Turn ι)) : ((start calls).run h).store.Kept := by
  have last := kept_instant valid (h := h) ((start calls).journal h).length
  rw [Store.instant_of_length_le (Nat.le_refl _)] at last
  rw [store_run]
  exact last

namespace Plan

open Locking (Lists)

variable {ι : Type} {calls : ι → Operation} {s : Store} {filter : CatalogFilter} {zone : Zone}
  {listings : List LockListing}

lemma steps_locks (s : Store) (filter : CatalogFilter) (zone : Zone) (t : Turn ι)
    (ts : List (Turn ι)) :
    (Locking.list filter zone >>= fun a => pure (Answer.locks .text a)).steps s (t :: ts) =
      (.done (.ok (.locks .text ((s.listLocks filter).map (.ofLock zone)))), s) :=
  Op.steps_done ..

variable [DecidableEq ι]

/-- The text has a line for each lock just when no name holds a newline, and a line tells its lock
just when there is no slash in its key and no tab in its key or its user. -/
theorem catalog_text (valid : Sessions.ValidIds calls) (h : List (Turn ι)) (i : Invocation)
    (asText : i.format = .text) (raw : RawFilter) (filter : CatalogFilter) (zone : Zone)
    (accepted : CatalogFilter.ofRaw raw.project raw.application raw.office = .ok filter) :
    (∃ op answer listings,
      let s := ((Sessions.start calls).run h).store
      (ofCommand i (.locks raw zone)).op? = some op ∧
      (∀ (t : Turn ι) ts, op.steps s (t :: ts) = (.done (.ok answer), s)) ∧
      Lists s filter zone listings ∧
      (listings ≠ [] →
        (answer.lines.length = listings.length ↔ ∀ x ∈ listings, x.lock.OneLine) ∧
        ((∀ x ∈ listings, x.lock.OneLine) →
          List.Forall₂ (fun line x => x.Tells line ↔ x.lock.Plain) answer.lines listings))) ∧
    ∀ a b : LockKey, a.text = b.text → a ≠ b → ¬ a.Plain ∧ ¬ b.Plain ∧ ¬ (a.Led ∧ b.Led) := by
  constructor
  · have kept := Sessions.kept_run valid h
    have lists : Lists _ filter zone _ := Locking.lists_of_keyedBy kept.locks_keyedBy
    refine ⟨_, _, _, ?_, steps_locks _ filter zone, lists, fun nonempty => ?_⟩
    · simp only [ofCommand, withFilter, accepted, asText]
      rfl
    · have named (x : LockListing) mem :=
        kept.isLockId (Table.mem_values_iff.2 ((lists.mem_iff x).1 mem).1)
      exact ⟨length_lines named nonempty, lines_tell named nonempty⟩
  · intro a b same other
    refine ⟨fun plain => ?_, fun plain => ?_, fun both => ?_⟩
    · exact other (plain.eq_of_text same)
    · exact other (plain.eq_of_text same.symm).symm
    · exact other (both.1.eq_of_text both.2 same)

end Plan

end LockRegistry

namespace LockRegistry.Plan

open Locking (Lists)

attribute [local instance] Regex.runner

lemma validIds_harbour : Sessions.ValidIds Locking.harbour := by
  rintro (_ | _ | _ | i) lockId made <;> cases made <;> decide

lemma plain_harbour : ∀ l ∈ Locking.harbourHeld.locks.values, l.OneLine ∧ l.Plain := by
  have clean : ∀ l ∈ Locking.harbourHeld.locks.values, (∀ s ∈ l.texts, '\n' ∉ s.toList) ∧
      (∀ p ∈ l.key.codePoints, '/' ∉ p) ∧ (∀ p ∈ l.key.codePoints, '\t' ∉ p) ∧
      ∀ u ∈ l.session.sessionUser.toList, '\t' ∉ u.toList := by decide
  intro l mem
  obtain ⟨oneLine, key, keyTabs, userTabs⟩ := clean l mem
  exact ⟨oneLine, key, keyTabs, userTabs⟩

theorem catalog_text_harbour : ∃ op answer listings,
    (ofCommand {} (.locks { project := some "qu?y" } .utc)).op? = some op ∧
      op.steps Locking.harbourHeld [Locking.harbourTurn 4] =
        (.done (.ok answer), Locking.harbourHeld) ∧
      listings ≠ [] ∧ answer.lines.length = listings.length ∧
      List.Forall₂ (fun line (x : LockListing) => x.Tells line) answer.lines listings := by
  obtain ⟨⟨op, answer, listings, planned, runs, lists, text⟩, -⟩ :=
    catalog_text validIds_harbour ([0, 1, 2, 3].map Locking.harbourTurn) {} rfl
      { project := some "qu?y" } { project := ⟨"qu?y"⟩ } .utc rfl
  have quay := (lists.mem_iff (.ofLock .utc (NewLock.toLock
    ⟨lockIdOfNat 1, ⟨"OSL", "quay", "editor"⟩, {}⟩ (.ofNanos 0)))).2
      ⟨⟨⟨"OSL", "quay", "editor"⟩, rfl⟩, ⟨by decide, by decide, by decide⟩, rfl⟩
  have plain (x : LockListing) (mem : x ∈ listings) : x.lock.OneLine ∧ x.lock.Plain :=
    plain_harbour x.lock (Table.mem_values_iff.2 ((lists.mem_iff x).1 mem).1)
  have nonempty : listings ≠ [] := List.ne_nil_of_mem quay
  obtain ⟨count, tell⟩ := text nonempty
  have tells := (tell fun x mem => (plain x mem).1).flip
  have all := (List.forall₂_and_left _ _).2 ⟨fun x mem => (plain x mem).2, tells⟩
  exact ⟨op, answer, listings, planned, runs _ _, nonempty, count.2 fun x mem => (plain x mem).1,
    all.flip.imp fun _ _ told => told.2.2 told.1⟩

def quayside (i : Nat) : Operation :=
  .request ⟨250, 10⟩
    { key := ⟨"OSL", "quay", "editor"⟩, session := { sessionUser := some "ann\nbob" } } none
    (lockIdOfNat i)

theorem catalog_text_ambiguous :
    (∃ listings,
      let s := ((Sessions.start quayside).run [{ session := 1, now := .ofNanos 0 }]).store
      (Locking.list {} .utc).steps s [Locking.harbourTurn 4] = (.done (.ok listings), s) ∧
      listings.length = 1 ∧ (Answer.locks .text listings).lines.length = 2) ∧
    ∃ a b, LockKey.ofRaw "A/B" "C" "d" = .ok a ∧ LockKey.ofRaw "A" "B/C" "d" = .ok b ∧ a ≠ b ∧
      a.text = b.text := by
  refine ⟨⟨_, rfl, rfl, by decide⟩, ⟨_, _, rfl, rfl, by decide, by decide⟩⟩

end LockRegistry.Plan
