import LockRegistry.Command.Plan
import LockRegistry.Proofs.Identifier
import LockRegistry.Proofs.Text.Numeral

namespace LockRegistry

namespace Json

lemma exists_intercalate (sep a : String) (l : List String) :
    ∃ rest, sep.intercalate (a :: l) = a ++ rest := by
  cases l with
  | nil => exact ⟨"", by simp⟩
  | cons b l => exact ⟨sep ++ sep.intercalate (b :: l), by simp [String.append_assoc]⟩

lemma pretty_fields (name : String) (j : Json) (fields : List (String × Json)) :
    ∃ rest, (obj ((name, j) :: fields)).pretty =
      openBrace ++ "\n  " ++ quote name ++ ": " ++ prettyAt 1 j ++ rest := by
  obtain ⟨rest, lines⟩ := exists_intercalate ",\n"
    (indent 1 ++ (quote name ++ ": " ++ prettyAt 1 j)) ((prettyFields 1 fields).map (indent 1 ++ ·))
  refine ⟨rest ++ "\n" ++ closeBrace, String.toList_injective ?_⟩
  simp only [pretty, prettyAt, prettyFields, block, List.isEmpty_cons, Bool.false_eq_true, if_false,
    List.map_cons, Nat.zero_add, lines]
  simp [indent]

lemma prettyAt_obj (depth : Nat) (fields : List (String × Json)) :
    ∃ rest, prettyAt depth (obj fields) = openBrace ++ rest := by
  simp only [prettyAt, block]
  split
  · exact ⟨_, rfl⟩
  · exact ⟨_, by simp only [String.append_assoc]; rfl⟩

lemma pretty_two_fields (a b : String) (x y : Json) :
    (obj [(a, x), (b, y)]).pretty =
      openBrace ++ "\n  " ++ quote a ++ ": " ++ prettyAt 1 x ++ ",\n  " ++ quote b ++ ": " ++
        prettyAt 1 y ++ "\n" ++ closeBrace := by
  apply String.toList_injective
  simp [pretty, prettyAt, prettyFields, block, indent]

lemma sorted_two_fields {a b : String} (order : a ≤ b) (x y : Json) :
    (obj [(a, x), (b, y)]).sorted = obj [(a, x.sorted), (b, y.sorted)] := by
  rw [sorted, sortFields, List.mergeSort_of_pairwise]
  · rfl
  · simpa [sortedFields] using order

lemma pretty_flag {a b : String} (order : a ≤ b) (x : Json) :
    ∃ start, ∀ flag : Bool, (obj [(a, x), (b, bool flag)]).sorted.pretty ++ "\n" =
      start ++ (quote b ++ ": " ++ (if flag then "true" else "false") ++ "\n" ++ closeBrace ++
        "\n") := by
  refine ⟨openBrace ++ "\n  " ++ quote a ++ ": " ++ prettyAt 1 x.sorted ++ ",\n  ", fun flag => ?_⟩
  rw [sorted_two_fields order, pretty_two_fields]
  simp only [String.append_assoc, sorted, prettyAt]

end Json

namespace Command

def begins (start output : String) : Bool := start.toList.isPrefixOf output.toList

def ends (last output : String) : Bool := last.toList.isSuffixOf output.toList

def affirms? (cmd : Command) (format : OutputFormat) (output : String) : Option Bool :=
  match cmd, format with
  | .acquire _ _ _, .text => some (begins "Acquired " output)
  | .acquire _ _ _, .json => some (begins "\x7b\n  \"outcome\": \"acquired\"" output)
  | .release _ _, .text => some (begins "Released lock " output)
  | .release _ _, .json => some (ends "\"released\": true\n\x7d\n" output)
  | .status _, .text => some (ends ": locked\n" output)
  | .status _, .json => some (ends "\"locked\": true\n\x7d\n" output)
  | .lockInfo _ _, .text => some (!ends " is not held\n" output)
  | .lockInfo _ _, .json => some (!begins "\x7b\n  \"lock\": null" output)
  | .rights (.check key grantee), .text =>
    some (output == s!"{grantee} may revoke {key.office}/{key.project}/{key.application}\n")
  | .rights (.check _ _), .json => some (ends "\"allowed\": true\n\x7d\n" output)
  | _, _ => none

def outputStatus (cmd : Command) (format : OutputFormat) (output : String) : Nat :=
  match cmd.affirms? format output with
  | some false => 2
  | _ => 0

lemma begins_append (start rest : String) : begins start (start ++ rest) = true := by
  rw [begins, List.isPrefixOf_iff_prefix, String.toList_append]
  exact List.prefix_append _ _

lemma not_begins_append {start first : String} (rest : String) (h : begins start first = false)
    (h' : begins first start = false) : begins start (first ++ rest) = false := by
  refine Bool.eq_false_iff.2 fun both => ?_
  simp only [begins, List.isPrefixOf_iff_prefix, Bool.eq_false_iff, ne_eq, String.toList_append]
    at h h' both
  rcases List.prefix_or_prefix_of_prefix both (List.prefix_append _ _) with shorter | longer
  · exact h shorter
  · exact h' longer

lemma begins_append_left (p a b : String) : begins (p ++ a) (p ++ b) = begins a b := by
  rw [Bool.eq_iff_iff]
  simp only [begins, String.toList_append, List.isPrefixOf_iff_prefix, List.prefix_append_right_inj]

lemma exists_begins_field (name : String) (j : Json) (fields : List (String × Json)) :
    ∃ rest, ∀ value,
      begins (Json.openBrace ++ "\n  " ++ Json.quote name ++ ": " ++ value)
        ((Json.obj ((name, j) :: fields)).pretty ++ "\n") =
          begins value (Json.prettyAt 1 j ++ rest) := by
  obtain ⟨rest, pretty⟩ := Json.pretty_fields name j fields
  refine ⟨rest ++ "\n", fun value => ?_⟩
  rw [pretty, ← begins_append_left (Json.openBrace ++ "\n  " ++ Json.quote name ++ ": ") value]
  simp only [String.append_assoc]

lemma ends_append (rest last : String) : ends last (rest ++ last) = true := by
  rw [ends, List.isSuffixOf_iff_suffix, String.toList_append]
  exact List.suffix_append _ _

lemma not_ends_append (rest : String) {last final : String}
    (length : last.toList.length = final.toList.length) (other : last ≠ final) :
    ends last (rest ++ final) = false := by
  refine Bool.eq_false_iff.2 fun h => other ?_
  rw [ends, List.isSuffixOf_iff_suffix, String.toList_append] at h
  have within := List.suffix_of_suffix_length_le h (List.suffix_append _ _)
    (Nat.le_of_eq length)
  exact String.toList_injective (within.eq_of_length length)

structure Judges (cmd : Command) (answer : OutputFormat → Answer) : Prop where
  one : ∃ exitCode json text, ∀ format, answer format = .print format exitCode json text
  told : ∀ format, (answer format).exitCode = cmd.outputStatus format (answer format).output

end Command

namespace Answer

open Command

variable {cmd : Command}

lemma judges_unasked {json : Json} {text : String}
    (none : ∀ format output, cmd.affirms? format output = none) :
    cmd.Judges fun format => print format 0 json text where
  one := ⟨_, _, _, fun _ => rfl⟩
  told format := by rw [outputStatus, none]; rfl

lemma judges_asked {json : Json} {text : String} (yes : Bool)
    (inText : cmd.affirms? .text (text ++ "\n") = some yes)
    (inJson : cmd.affirms? .json (json.pretty ++ "\n") = some yes) :
    cmd.Judges fun format => print format (verdict yes) json text where
  one := ⟨_, _, _, fun _ => rfl⟩
  told format := by
    cases format with
    | text =>
      change verdict yes = cmd.outputStatus .text (text ++ "\n")
      rw [outputStatus, inText]
      cases yes <;> rfl
    | json =>
      change verdict yes = cmd.outputStatus .json (json.pretty ++ "\n")
      rw [outputStatus, inJson]
      cases yes <;> rfl

lemma judges_release (office lockId : String) (yes : Bool) :
    Judges (.release office lockId) fun format => release format office lockId yes := by
  refine judges_asked yes ?_ ?_
  · cases yes with
    | true => simp [affirms?, begins, toString]
    | false =>
      simp only [affirms?, toString, Bool.false_eq_true, if_false, String.append_assoc]
      rw [not_begins_append _ (by decide) (by decide)]
  · cases yes <;> simp only [affirms?] <;> decide +kernel

lemma judges_check (key : RawKey) (grantee : String) (yes : Bool) :
    Judges (.rights (.check key grantee)) fun format => check format key grantee yes := by
  refine judges_asked yes ?_ ?_
  · cases yes with
    | true => simp [affirms?, toString, String.append_assoc]
    | false =>
      simp only [affirms?, Option.some.injEq, beq_eq_false_iff_ne]
      intro same
      have lengths := congrArg (fun s => s.toList.length) same
      simp [toString] at lengths
      omega
  · cases yes <;> simp only [affirms?] <;> decide +kernel

lemma judges_status (key : RawKey) (k : LockKey) (yes : Bool) :
    Judges (.status key) fun format => status format k yes := by
  refine judges_asked yes ?_ ?_
  · cases yes with
    | true =>
      have output : k.text ++ ": " ++ "locked" ++ "\n" = k.text ++ ": locked\n" := by
        simp only [String.append_assoc]
        rfl
      simp only [affirms?, if_true, output, ends_append]
    | false =>
      have other : ends ": locked\n" ((k.text ++ ": ") ++ ("unlocked" ++ "\n")) = false :=
        not_ends_append _ (by simp) (by decide)
      simp only [affirms?, Bool.false_eq_true, if_false, String.append_assoc] at other ⊢
      rw [other]
  · obtain ⟨start, output⟩ := Json.pretty_flag (show "key" ≤ "locked" by decide) k.toJson
    cases yes with
    | true =>
      have last : Json.quote "locked" ++ ": " ++ "true" ++ "\n" ++ Json.closeBrace ++ "\n" =
        "\"locked\": true\n\x7d\n" := by decide
      simp only [affirms?, record, output, if_true, last, ends_append]
    | false =>
      have last : Json.quote "locked" ++ ": " ++ "false" ++ "\n" ++ Json.closeBrace ++ "\n" =
        "\"" ++ "locked\": false\n\x7d\n" := by decide
      have other : ends "\"locked\": true\n\x7d\n" (start ++ "\"" ++ "locked\": false\n\x7d\n") =
        false := not_ends_append _ (by simp) (by decide)
      simp only [affirms?, record, output, Bool.false_eq_true, if_false, last,
        ← String.append_assoc, other]

lemma exists_last_digit (z : ZonedTime) :
    ∃ start d, d.isDigit = true ∧ z.text.toList = start ++ [d] := by
  obtain ⟨before, n, minutes⟩ : ∃ (before : String) (n : Nat),
      z.text = before ++ Text.padded 2 n := by
    simp only [ZonedTime.text, Time.offsetText, toString, ← String.append_assoc]
    exact ⟨_, _, rfl⟩
  have filled : (Text.padded 2 n).toList ≠ [] := by
    have length := Text.le_length_padded 2 n
    intro empty
    rw [empty] at length
    exact absurd length (by decide)
  obtain ⟨start, d, split⟩ := (List.eq_nil_or_concat _).resolve_left filled
  have last : d ∈ (Text.padded 2 n).toList := by simp [split]
  exact ⟨before.toList ++ start, d, Text.isDigit_of_mem_padded last, by simp [minutes, split]⟩

lemma not_ends_time (rest : String) (z : ZonedTime) :
    ends " is not held\n" (rest ++ z.text ++ "\n") = false := by
  obtain ⟨start, d, digit, text⟩ := exists_last_digit z
  refine Bool.eq_false_iff.2 fun h => ?_
  have output : (rest ++ z.text ++ "\n").toList = (rest.toList ++ start) ++ [d, '\n'] := by
    simp [text]
  rw [ends, List.isSuffixOf_iff_suffix, output] at h
  have final : ['d', '\n'] <:+ (rest.toList ++ start) ++ [d, '\n'] :=
    List.IsSuffix.trans ⟨" is not hel".toList, by simp⟩ h
  have within : ['d', '\n'] <:+ [d, '\n'] :=
    List.suffix_of_suffix_length_le final (List.suffix_append ..) (Nat.le_refl 2)
  have same := within.eq_of_length rfl
  cases same
  cases digit

lemma judges_lockInfo (office lockId : String) (lock : Option Lock) :
    Judges (.lockInfo office lockId) fun format => lockInfo format lockId lock := by
  have order : "lock" ≤ "pending_revocation" := by decide
  refine judges_asked lock.isSome ?_ ?_
  · cases lock with
    | none =>
      have output : lockInfoText lockId none ++ "\n" = "Lock " ++ lockId ++ " is not held\n" := by
        simp [lockInfoText, toString, String.append_assoc]
      simp only [affirms?, output, ends_append]
      rfl
    | some l =>
      obtain ⟨rest, z, output⟩ : ∃ (rest : String) (z : ZonedTime),
          lockInfoText lockId (some l) = rest ++ z.text := by
        simp only [lockInfoText]
        split
        · exact ⟨_, _, rfl⟩
        · exact ⟨_, _, by simp only [← String.append_assoc]; rfl⟩
      simp only [affirms?, output, not_ends_time]
      rfl
  · obtain ⟨rest, begun⟩ := exists_begins_field "lock" (Json.ofOption Lock.toJson lock).sorted
      [("pending_revocation",
        (Json.ofOption RevocationRequest.toJson (lock.bind (·.pendingRevocation))).sorted)]
    have start : "\x7b\n  \"lock\": null" =
        Json.openBrace ++ "\n  " ++ Json.quote "lock" ++ ": " ++ "null" := by decide
    rw [affirms?, record, Json.sorted_two_fields order, start, begun]
    cases lock with
    | none =>
      exact congrArg (some !·) (begins_append "null" rest)
    | some l =>
      obtain ⟨fields, sorted⟩ : ∃ fields, l.toJson.sorted = .obj fields := ⟨_, rfl⟩
      obtain ⟨inner, opened⟩ := Json.prettyAt_obj 1 fields
      rw [Json.ofOption, sorted, opened, String.append_assoc,
        not_begins_append _ (by decide) (by decide)]
      rfl

lemma not_begins_acquired {key : RawKey} {k : LockKey}
    (read : LockKey.ofRaw key.office key.project key.application = .ok k) (rest : String) :
    begins "Acquired " (k.text ++ rest) = false := by
  have text : (k.text ++ rest).toList = k.office.toList ++ '/' ::
      (k.project ++ "/" ++ k.application ++ rest).toList := by
    simp [LockKey.text, toString]
  have capital : ∀ c ∈ k.office.toList, Text.upperLetter c = [c] := by
    rw [congrArg LockKey.office (LockKey.eq_of_ofRaw read)]
    exact fun c h => Text.upperLetter_of_mem h
  refine Bool.eq_false_iff.2 fun h => ?_
  rw [begins, text, List.isPrefixOf_iff_prefix] at h
  obtain ⟨after, same⟩ := h
  have second : some 'c' = (k.office.toList ++ '/' :: _)[1]? := congrArg (·[1]?) same
  -- the second letter is small, and an office has no small letter
  cases office : k.office.toList with
  | nil =>
    rw [office] at same
    cases same
  | cons a others =>
    cases others with
    | nil =>
      rw [office] at second
      cases second
    | cons b others =>
      rw [office] at second
      cases second
      exact absurd (capital 'c' (by simp [office])) (by decide)

lemma judges_acquire {key : RawKey} {k : LockKey} (revoke : Bool) (timeout : Option Int)
    (read : LockKey.ofRaw key.office key.project key.application = .ok k)
    (outcome : AcquireOutcome) :
    Judges (.acquire key revoke timeout) fun format => acquire format k outcome := by
  refine judges_asked outcome.isAcquired ?_ ?_
  · cases outcome with
    | acquired lockId =>
      have text : acquireText k (.acquired lockId) = "Acquired " ++ k.text ++ " as " ++ lockId :=
        rfl
      simp only [affirms?, text, String.append_assoc, begins_append]
      rfl
    | lockHeld heldBy acquiredAt =>
      have text : acquireText k (.lockHeld heldBy acquiredAt) =
          k.text ++ " is held by " ++ heldBy.getD "unknown" ++ " since " ++
            (acquiredAt.map Timestamp.text).getD "unknown" := rfl
      simp only [affirms?, text, String.append_assoc, not_begins_acquired read]
      rfl
    | revokeDenied =>
      have text : acquireText k .revokeDenied = "Not allowed to revoke the lock on " ++ k.text :=
        rfl
      simp only [affirms?, text, String.append_assoc]
      rw [not_begins_append _ (by decide) (by decide)]
      rfl
    | revokeTimedOut waitedMs =>
      have text : acquireText k (.revokeTimedOut waitedMs) = "Holder of " ++ k.text ++
          " did not release within " ++ toString waitedMs ++ " ms" := rfl
      simp only [affirms?, text, String.append_assoc]
      rw [not_begins_append _ (by decide) (by decide)]
      rfl
  · have start : "\x7b\n  \"outcome\": \"acquired\"" =
        Json.openBrace ++ "\n  " ++ Json.quote "outcome" ++ ": " ++ "\"acquired\"" := by decide
    obtain ⟨value, fields, json⟩ : ∃ value fields,
        outcome.toJson = .obj (("outcome", .str value) :: fields) := by
      cases outcome <;> exact ⟨_, _, rfl⟩
    obtain ⟨rest, begun⟩ := exists_begins_field "outcome" (.str value) fields
    rw [affirms?, json, start, begun, Json.prettyAt]
    cases outcome <;> cases json
    · rw [show Json.quote "acquired" = "\"acquired\"" by decide, begins_append]
      rfl
    all_goals
      rw [not_begins_append _ (by decide) (by decide)]
      rfl

end Answer

end LockRegistry
