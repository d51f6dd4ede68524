import LockRegistry.Regex

/-! An engine that runs. It computes, from the end of the value, which suffixes of the expression
match what follows. -/

namespace LockRegistry.Regex

def isMeta (c : Char) : Bool :=
  c ∈ ['\\', '.', '+', '*', '?', '(', ')', '|', '[', ']', '{', '}', '^', '$', '#', '&', '-', '~']

def escapeChar (c : Char) : List Char := if isMeta c then ['\\', c] else [c]

namespace Runner

def escape (s : String) : String := String.ofList (s.toList.flatMap escapeChar)

section Reading

def readFlags : List Char → Flags × List Char
  | '(' :: '?' :: 'i' :: 's' :: ')' :: cs => (⟨true, true⟩, cs)
  | '(' :: '?' :: 'i' :: ')' :: cs => (⟨true, false⟩, cs)
  | '(' :: '?' :: 's' :: ')' :: cs => (⟨false, true⟩, cs)
  | cs => (⟨false, false⟩, cs)

def readStart : List Char → Bool × List Char
  | '^' :: cs => (true, cs)
  | cs => (false, cs)

def readItems (before : List Item) : List Char → Option (List Item × Bool)
  | [] => some (before.reverse, false)
  | ['$'] => some (before.reverse, true)
  | '\\' :: c :: cs => readItems (⟨.char c, false⟩ :: before) cs
  | '*' :: cs =>
    match before with
    | ⟨a, false⟩ :: before => readItems (⟨a, true⟩ :: before) cs
    | _ => none
  | '.' :: cs => readItems (⟨.any, false⟩ :: before) cs
  | c :: cs => if isMeta c then none else readItems (⟨.char c, false⟩ :: before) cs

def read (source : String) : Option Expression :=
  let (flags, cs) := readFlags source.toList
  let (fromStart, cs) := readStart cs
  (readItems [] cs).map fun (items, toEnd) => ⟨flags, fromStart, toEnd, items⟩

theorem toList_escape (c : Char) : (escape (String.singleton c)).toList = escapeChar c := by
  simp [escape]

theorem readItems_char (before : List Item) (c : Char) (cs : List Char) :
    readItems before (escapeChar c ++ cs) = readItems (⟨.char c, false⟩ :: before) cs := by
  unfold escapeChar
  by_cases special : isMeta c = true
  · rw [if_pos special]
    rfl
  · rw [if_neg special]
    have plain (d : Char) (hd : isMeta d = true) : c ≠ d := fun h => special (h ▸ hd)
    rw [List.singleton_append, readItems, if_neg special]
    · exact fun last _ => plain '$' rfl last
    · exact fun _ _ h _ => plain '\\' rfl h
    · exact plain '*' rfl
    · exact plain '.' rfl

theorem readItems_atom (before : List Item) (a : Atom) (cs : List Char) :
    readItems before (a.text escape ++ cs) = readItems (⟨a, false⟩ :: before) cs := by
  cases a with
  | any =>
    rw [Atom.text, List.singleton_append, readItems]
  | char c => rw [Atom.text, toList_escape, readItems_char]

theorem readItems_text (before p : List Item) (cs : List Char) :
    readItems before (p.flatMap (Item.text escape) ++ cs) = readItems (p.reverse ++ before) cs := by
  induction p generalizing before with
  | nil => rfl
  | cons i p ih =>
    obtain ⟨a, starred⟩ := i
    rw [List.flatMap_cons, Item.text, List.append_assoc, List.append_assoc, readItems_atom]
    cases starred with
    | false => simp [ih]
    | true => simp [readItems, ih]

theorem head?_text (p : List Item) (toEnd : Bool) :
    (p.flatMap (Item.text escape) ++ if toEnd then ['$'] else []).head? ≠ some '(' ∧
      (p.flatMap (Item.text escape) ++ if toEnd then ['$'] else []).head? ≠ some '^' := by
  cases p with
  | nil => cases toEnd <;> decide
  | cons i p =>
    obtain ⟨a, starred⟩ := i
    cases a with
    | any => simp [Item.text, Atom.text]
    | char c =>
      rw [List.flatMap_cons, Item.text, Atom.text, toList_escape, escapeChar]
      by_cases special : isMeta c = true
      · simp [special]
      · have plain (d : Char) (hd : isMeta d = true) : c ≠ d := fun h => special (h ▸ hd)
        simpa [special] using ⟨plain '(' rfl, plain '^' rfl⟩

theorem readFlags_text (f : Flags) {cs : List Char} (h : cs.head? ≠ some '(') :
    readFlags (f.text ++ cs) = (f, cs) := by
  obtain ⟨_ | _, _ | _⟩ := f
  · rw [show Flags.text ⟨false, false⟩ ++ cs = cs from rfl]
    unfold readFlags
    split <;> simp_all
  · rfl
  · rfl
  · rfl

theorem readStart_text (fromStart : Bool) {cs : List Char} (h : cs.head? ≠ some '^') :
    readStart ((if fromStart then ['^'] else []) ++ cs) = (fromStart, cs) := by
  cases fromStart with
  | true => rfl
  | false =>
    unfold readStart
    split <;> simp_all

theorem read_text (e : Expression) : read (e.text escape) = some e := by
  obtain ⟨flags, fromStart, toEnd, p⟩ := e
  have head := head?_text p toEnd
  have group : ((if fromStart then ['^'] else []) ++
      (p.flatMap (Item.text escape) ++ if toEnd then ['$'] else [])).head? ≠ some '(' := by
    cases fromStart with
    | true => simp
    | false => exact head.1
  rw [read, Expression.text, String.toList_ofList, readFlags_text flags group]
  dsimp only
  rw [readStart_text fromStart head.2]
  dsimp only
  rw [readItems_text, List.append_nil]
  cases toEnd <;> simp [readItems]

end Reading

section Searching

inductive Point where
  | all
  | line
  | exact (c : Char)
  | letter (folded : Char)

structure Step where
  point : Point
  repeats : Bool

def Point.takes (c folded : Char) : Point → Bool
  | all => true
  | line => c != '\n'
  | exact d => c == d
  | letter d => folded == d

def point (f : Flags) : Atom → Point
  | .any => if f.dotAll then .all else .line
  | .char c => if f.ignoreCase then .letter (Text.fold c) else .exact c

def steps (f : Flags) (p : List Item) : List Step := p.map fun i => ⟨point f i.atom, i.starred⟩

def margin (anchored : Bool) : List Step := if anchored then [] else [⟨.all, true⟩]

def program (e : Expression) : List Step :=
  margin e.fromStart ++ (steps e.flags e.items ++ margin e.toEnd)

-- For each suffix of the steps, the longest first, whether it matches the empty text.
def rowAtEnd : List Step → List Bool
  | [] => [true]
  | s :: p => let row := rowAtEnd p; (s.repeats && row.headD false) :: row

def rowBefore (c folded : Char) : List Step → List Bool → List Bool
  | [], _ => [false]
  | s :: p, after =>
    let row := rowBefore c folded p after.tail
    let here :=
      if s.repeats then row.headD false || s.point.takes c folded && after.headD false
      else s.point.takes c folded && after.tail.headD false
    here :: row

def rowAt (p : List Step) (text : List Char) : List Bool :=
  text.foldr (fun c row => rowBefore c (Text.fold c) p row) (rowAtEnd p)

def runs (p : List Step) (text : List Char) : Bool := (rowAt p text).headD false

theorem rowAt_cons (p : List Step) (c : Char) (text : List Char) :
    rowAt p (c :: text) = rowBefore c (Text.fold c) p (rowAt p text) := rfl

theorem tail_rowAt (s : Step) (p : List Step) (text : List Char) :
    (rowAt (s :: p) text).tail = rowAt p text := by
  induction text with
  | nil => rfl
  | cons c text ih =>
    rw [rowAt_cons, rowAt_cons, ← ih]
    rfl

theorem runs_cons_nil (s : Step) (p : List Step) :
    runs (s :: p) [] = (s.repeats && runs p []) := rfl

theorem runs_cons_cons (s : Step) (p : List Step) (c : Char) (text : List Char) :
    runs (s :: p) (c :: text) =
      if s.repeats then runs p (c :: text) || s.point.takes c (Text.fold c) && runs (s :: p) text
      else s.point.takes c (Text.fold c) && runs p text := by
  simp only [runs, rowAt_cons, rowBefore, tail_rowAt, List.headD_cons]

inductive Fits : List Step → List Char → Prop
  | nil : Fits [] []
  | once {q p c text} (takes : q.takes c (Text.fold c) = true) (rest : Fits p text) :
      Fits (⟨q, false⟩ :: p) (c :: text)
  | skip {q p text} (rest : Fits p text) : Fits (⟨q, true⟩ :: p) text
  | again {q p c text} (takes : q.takes c (Text.fold c) = true)
      (rest : Fits (⟨q, true⟩ :: p) text) : Fits (⟨q, true⟩ :: p) (c :: text)

theorem runs_iff (p : List Step) (text : List Char) : runs p text = true ↔ Fits p text := by
  induction p generalizing text with
  | nil =>
    cases text with
    | nil => exact iff_of_true rfl .nil
    | cons c text => exact iff_of_false Bool.false_ne_true nofun
  | cons s p ih =>
    obtain ⟨q, repeats⟩ := s
    cases repeats with
    | false =>
      cases text with
      | nil => exact iff_of_false Bool.false_ne_true nofun
      | cons c text =>
        rw [runs_cons_cons, if_neg Bool.false_ne_true, Bool.and_eq_true, ih]
        exact ⟨fun h => .once h.1 h.2, fun | .once takes rest => ⟨takes, rest⟩⟩
    | true =>
      induction text with
      | nil =>
        rw [runs_cons_nil, Bool.true_and, ih]
        exact ⟨.skip, fun | .skip rest => rest⟩
      | cons c text again =>
        rw [runs_cons_cons, if_pos rfl, Bool.or_eq_true, Bool.and_eq_true, ih, again]
        constructor
        · rintro (rest | ⟨takes, rest⟩)
          · exact .skip rest
          · exact .again takes rest
        · rintro (_ | _ | rest | ⟨takes, rest⟩)
          · exact .inl rest
          · exact .inr ⟨takes, rest⟩

theorem fits_append {p q : List Step} {text : List Char} :
    Fits (p ++ q) text ↔ ∃ u v, text = u ++ v ∧ Fits p u ∧ Fits q v := by
  constructor
  · intro h
    generalize joined : p ++ q = r at h
    induction h generalizing p with
    | nil =>
      obtain ⟨rfl, rfl⟩ := List.append_eq_nil_iff.1 joined
      exact ⟨[], [], rfl, .nil, .nil⟩
    | once takes rest ih =>
      rcases List.append_eq_cons_iff.1 joined with ⟨rfl, rfl⟩ | ⟨p, rfl, split⟩
      · exact ⟨[], _, rfl, .nil, .once takes rest⟩
      · obtain ⟨u, v, rfl, left, right⟩ := ih split.symm
        exact ⟨_ :: u, v, rfl, .once takes left, right⟩
    | skip rest ih =>
      rcases List.append_eq_cons_iff.1 joined with ⟨rfl, rfl⟩ | ⟨p, rfl, split⟩
      · exact ⟨[], _, rfl, .nil, .skip rest⟩
      · obtain ⟨u, v, rfl, left, right⟩ := ih split.symm
        exact ⟨u, v, rfl, .skip left, right⟩
    | again takes rest ih =>
      rcases List.append_eq_cons_iff.1 joined with ⟨rfl, rfl⟩ | ⟨p, rfl, split⟩
      · exact ⟨[], _, rfl, .nil, .again takes rest⟩
      · obtain ⟨u, v, rfl, left, right⟩ := ih joined
        exact ⟨_ :: u, v, rfl, .again takes left, right⟩
  · rintro ⟨u, v, rfl, left, right⟩
    induction left with
    | nil => exact right
    | once takes _ ih => exact .once takes ih
    | skip _ ih => exact .skip ih
    | again takes _ ih => exact .again takes ih

theorem fits_margin {anchored : Bool} {text : List Char} :
    Fits (margin anchored) text ↔ (anchored = true → text = []) := by
  cases anchored with
  | true => exact ⟨fun | .nil => fun _ => rfl, fun h => h rfl ▸ .nil⟩
  | false =>
    refine iff_of_true ?_ nofun
    induction text with
    | nil => exact .skip .nil
    | cons c text ih => exact .again rfl ih

theorem takes_point {f : Flags} {a : Atom} {c : Char} :
    (point f a).takes c (Text.fold c) = true ↔ a.Takes f c := by
  obtain ⟨ignoreCase, dotAll⟩ := f
  cases a with
  | any => cases dotAll <;> simp [point, Point.takes, Atom.Takes]
  | char d =>
    cases ignoreCase with
    | false => simp [point, Point.takes, Atom.Takes]
    | true =>
      simp only [point, Point.takes, Atom.Takes, if_true, beq_iff_eq, true_and, Text.sameLetter_iff]
      exact ⟨.inr, fun | .inl same => same ▸ rfl | .inr same => same⟩

theorem fits_steps {f : Flags} {p : List Item} {text : List Char} :
    Fits (steps f p) text ↔ Covers f p text := by
  constructor
  · intro h
    generalize compiled : steps f p = q at h
    induction h generalizing p with
    | nil =>
      obtain rfl := List.map_eq_nil_iff.1 compiled
      exact .nil
    | once takes _ ih =>
      obtain ⟨⟨a, _⟩, p, rfl, same, rest⟩ := List.map_eq_cons_iff.1 compiled
      cases same
      exact .once (takes_point.1 takes) (ih rest)
    | skip _ ih =>
      obtain ⟨⟨a, _⟩, p, rfl, same, rest⟩ := List.map_eq_cons_iff.1 compiled
      cases same
      exact .skip (ih rest)
    | again takes _ ih =>
      have whole := ih compiled
      obtain ⟨⟨a, _⟩, p, rfl, same, rest⟩ := List.map_eq_cons_iff.1 compiled
      cases same
      exact .again (takes_point.1 takes) whole
  · intro h
    induction h with
    | nil => exact .nil
    | once takes _ ih => exact .once (takes_point.2 takes) ih
    | skip _ ih => exact .skip ih
    | again takes _ ih => exact .again (takes_point.2 takes) ih

theorem runs_program_iff (e : Expression) (text : List Char) :
    runs (program e) text = true ↔ e.Finds text := by
  simp only [runs_iff, program, fits_append, fits_margin, fits_steps, Expression.Finds]
  constructor
  · rintro ⟨before, _, rfl, start, piece, after, rfl, covers, stop⟩
    exact ⟨before, piece, after, rfl, start, stop, covers⟩
  · rintro ⟨before, piece, after, rfl, start, stop, covers⟩
    exact ⟨before, _, rfl, start, piece, after, rfl, covers, stop⟩

end Searching

section Compiling

-- More points than these are too large an expression.
def pointLimit : Nat := 10999

def sizeLimit : Nat := 10485760

def points (p : List Item) : Nat := p.countP (·.atom = .any)

def compile (source : String) : Except String Unit :=
  match read source with
  | none => .error "unsupported expression"
  | some e =>
    if pointLimit < points e.items then
      .error s!"Compiled regex exceeds size limit of {sizeLimit} bytes."
    else .ok ()

theorem compile_text (e : Expression) :
    compile (e.text escape) = .ok () ↔ points e.items ≤ pointLimit := by
  rw [compile, read_text]
  dsimp only
  split
  · rename_i large
    exact iff_of_false nofun (Nat.not_le.2 large)
  · rename_i small
    exact iff_of_true rfl (Nat.not_lt.1 small)

def isMatch (source value : String) : Bool :=
  (read source).any fun e => runs (program e) value.toList

end Compiling

end Runner

@[reducible] def runner : Engine where
  escape := Runner.escape
  compile := Runner.compile
  isMatch := Runner.isMatch
  isMatch_iff e value := by
    rw [Runner.isMatch, Runner.read_text, Option.any_some, Runner.runs_program_iff]
  compile_short e short :=
    (Runner.compile_text e).2 (Nat.le_trans List.countP_le_length
      (Nat.le_trans short (by decide)))

end LockRegistry.Regex
