import Articulation.Proofs.Numerals
/-!
Flat records as YAML text. A record whose names and values are words is written with one line for
each field, and that text is read as the record again.
-/
set_option autoImplicit false

namespace Articulation.Yaml

def isWordChar (c : Char) : Bool := c.isAlphanum || ['_', '.', '+', '-'].contains c

/-- A text that stands in a line for itself. -/
structure IsWord (cs : List Char) : Prop where
  some : cs ≠ []
  /-- A lone hyphen begins an item of a list. -/
  noHyphen : cs ≠ ['-']
  chars : ∀ c ∈ cs, isWordChar c = true

structure IsKeyWord (cs : List Char) : Prop extends IsWord cs where
  /-- Hyphens and points at the start of a line may be the mark of a document. -/
  noMark : cs.head? ≠ Option.some '-' ∧ cs.head? ≠ Option.some '.'
  /-- Longer keys stand behind a mark of their own. -/
  short : cs.length < 123

instance (cs : List Char) : Decidable (IsWord cs) :=
  decidable_of_iff (cs ≠ [] ∧ cs ≠ ['-'] ∧ cs.all isWordChar = true)
    ⟨fun h => ⟨h.1, h.2.1, List.all_eq_true.1 h.2.2⟩,
      fun h => ⟨h.some, h.noHyphen, List.all_eq_true.2 h.chars⟩⟩

instance (cs : List Char) : Decidable (IsKeyWord cs) :=
  decidable_of_iff (IsWord cs ∧ (cs.head? ≠ some '-' ∧ cs.head? ≠ some '.') ∧ cs.length < 123)
    ⟨fun h => ⟨h.1, h.2.1, h.2.2⟩, fun h => ⟨h.toIsWord, h.noMark, h.short⟩⟩

theorem ne_of_isWordChar {c d : Char} (h : isWordChar c = true) (other : isWordChar d = false) :
    c ≠ d := by
  rintro rfl
  rw [h] at other
  contradiction

theorem bounds_of_isWordChar {c : Char} (h : isWordChar c = true) :
    43 ≤ c.toNat ∧ c.toNat ≤ 122 := by
  rw [isWordChar, Bool.or_eq_true, List.contains_iff_mem] at h
  rcases h with h | h
  · simp only [Char.isAlphanum, Char.isAlpha, Char.isUpper, Char.isLower, Char.isDigit,
      Bool.or_eq_true, Bool.and_eq_true, decide_eq_true_eq, UInt32.le_iff_toNat_le, ge_iff_le,
      Char.toNat_val, Char.reduceToNat] at h
    omega
  · simp only [List.mem_cons, List.not_mem_nil, or_false] at h
    rcases h with rfl | rfl | rfl | rfl
    all_goals decide

theorem not_isBreak_of_isWordChar {c : Char} (h : isWordChar c = true) : isBreak c = false := by
  simp only [isBreak, Bool.or_eq_false_iff, beq_eq_false_iff_ne]
  exact ⟨⟨⟨⟨ne_of_isWordChar h rfl, ne_of_isWordChar h rfl⟩, ne_of_isWordChar h rfl⟩,
    ne_of_isWordChar h rfl⟩, ne_of_isWordChar h rfl⟩

theorem not_isBlank_of_isWordChar {c : Char} (h : isWordChar c = true) : isBlank c = false := by
  simp only [isBlank, Bool.or_eq_false_iff, beq_eq_false_iff_ne]
  exact ⟨ne_of_isWordChar h rfl, ne_of_isWordChar h rfl⟩

theorem isStreamChar_of_isWordChar {c : Char} (h : isWordChar c = true) :
    isStreamChar c = true := by
  have := bounds_of_isWordChar h
  have middle : (0x20 ≤ c.toNat && c.toNat ≤ 0x7E) = true := by
    simp
    omega
  simp [isStreamChar, middle]

/-- A word goes up to a blank, a line end or the colon of a key. -/
theorem plainWord_append {cs : List Char} (rest : List Char) (word : ∀ c ∈ cs, isWordChar c = true)
    (ended : ∀ c rest', rest = c :: rest' → endsPlain false c rest' = true) :
    plainWord false (cs ++ rest) = (cs, rest) := by
  induction cs with
  | nil =>
    cases rest with
    | nil => rfl
    | cons c rest => simp [plainWord, ended c rest rfl]
  | cons c cs ih =>
    have here := word c List.mem_cons_self
    have later := ih fun d h => word d (List.mem_cons_of_mem c h)
    have goesOn : endsPlain false c (cs ++ rest) = false := by
      have colon : (c == ':') = false := beq_eq_false_iff_ne.2 (ne_of_isWordChar here rfl)
      simp [endsPlain, not_isBlank_of_isWordChar here, not_isBreak_of_isWordChar here, colon]
    simp [plainWord, goesOn, later]

theorem after_append (p : Position) {cs : List Char} (word : ∀ c ∈ cs, isWordChar c = true)
    (rest : List Char) :
    p.after (cs ++ rest) = (⟨p.index + cs.length, p.line, p.column + cs.length⟩ : Position).after
      rest := by
  induction cs generalizing p with
  | nil => rfl
  | cons c cs ih =>
    have here := word c List.mem_cons_self
    have carriage : c ≠ '\r' := ne_of_isWordChar here rfl
    have mark : c ≠ byteOrderMark := ne_of_isWordChar here rfl
    have later := ih (⟨p.index + 1, p.line, p.column + 1⟩ : Position) fun d h =>
      word d (List.mem_cons_of_mem c h)
    have index : p.index + 1 + cs.length = p.index + (c :: cs).length := by
      simp
      omega
    have column : p.column + 1 + cs.length = p.column + (c :: cs).length := by
      simp
      omega
    simp only [index, column] at later
    rw [List.cons_append, Position.after, not_isBreak_of_isWordChar here]
    · simp [mark, later]
    · simp [carriage]

structure Line where
  key : List Char
  word : List Char
  isKeyWord : IsKeyWord key
  isWord : IsWord word

def Line.text (l : Line) : List Char := l.key ++ ':' :: ' ' :: (l.word ++ ['\n'])

def Line.tokens (l : Line) : List Token :=
  [.scalar (String.ofList l.key) true, .value, .scalar (String.ofList l.word) true]

/-- The marks of the keys of so many lines, the last one first. The first line opens the mapping. -/
def keyMarks : Nat → List KeyMark
  | 0 => []
  | n + 1 => ⟨3 * n, n == 0⟩ :: keyMarks n

structure AtLine (rest : List Char) : Prop where
  word : ∀ c ∈ rest.head?, isWordChar c = true
  noMark : rest.head? ≠ some '-' ∧ rest.head? ≠ some '.'

theorem AtLine.notDocumentMark {rest : List Char} (h : AtLine rest) :
    atDocumentMark rest = false := by
  cases rest with
  | nil => rfl
  | cons c cs =>
    have minus : c ≠ '-' := by simpa using h.noMark.1
    have point : c ≠ '.' := by simpa using h.noMark.2
    simp [atDocumentMark, atMark, minus, point]

theorem AtLine.text (lines : List Line) : AtLine (lines.flatMap Line.text) := by
  cases lines with
  | nil => exact ⟨by simp, by simp⟩
  | cons l lines =>
    obtain ⟨key, word, isKeyWord, isWord⟩ := l
    cases key with
    | nil => exact absurd rfl isKeyWord.some
    | cons c cs =>
      exact ⟨by simpa [Line.text] using isKeyWord.chars c List.mem_cons_self,
        by simpa [Line.text] using isKeyWord.noMark⟩

/-- A line end in front of a line ends a plain scalar. -/
theorem plainGap_lineEnd {rest : List Char} (h : AtLine rest) :
    plainGap ('\n' :: rest) = ⟨some [' '], some 0, rest⟩ := by
  have breaks : plainBreaks 0 rest = (some [], 0, rest) := by
    cases rest with
    | nil => rfl
    | cons c cs =>
      have word := h.word c rfl
      have space : c ≠ ' ' := ne_of_isWordChar word rfl
      have carriage : c ≠ '\r' := ne_of_isWordChar word rfl
      rw [plainBreaks, not_isBreak_of_isWordChar word]
      · rfl
      · simp [space]
      · simp [carriage]
  have taken : takeBreak? ('\n' :: rest) = some ('\n', rest) := rfl
  simp [plainGap, taken, h.notDocumentMark, breaks, folded]

theorem readPlain_key {cs rest : List Char} (word : IsWord cs) (indent : Int) :
    readPlain false indent (cs ++ ':' :: ' ' :: rest) = ⟨cs, false, ':' :: ' ' :: rest⟩ := by
  have taken := plainWord_append (':' :: ' ' :: rest) word.chars fun c rest' h => by
    obtain ⟨rfl, rfl⟩ := List.cons.inj h
    rfl
  have gap : plainGap (':' :: ' ' :: rest) = ⟨none, none, ':' :: ' ' :: rest⟩ := rfl
  have length : (cs ++ ':' :: ' ' :: rest).length = cs.length + rest.length + 1 + 1 := by
    simp
    omega
  rw [readPlain, length, plainFrom, taken]
  simp [word.some, gap]

theorem readPlain_value {cs rest : List Char} (word : IsWord cs) (next : AtLine rest) {indent : Int}
    (indented : 0 < indent) :
    readPlain false indent (cs ++ '\n' :: rest) = ⟨cs, true, rest⟩ := by
  have taken := plainWord_append ('\n' :: rest) word.chars fun c rest' h => by
    obtain ⟨rfl, rfl⟩ := List.cons.inj h
    rfl
  have length : (cs ++ '\n' :: rest).length = cs.length + rest.length + 1 := by
    simp
    omega
  rw [readPlain, length, plainFrom, taken]
  simp [word.some, plainGap_lineEnd next, indented]

namespace TokenStream

theorem moveTo_append (s : TokenStream) (front : List Char) {rest : List Char}
    (h : s.rest = front ++ rest) :
    s.moveTo rest = { s with rest := rest, position := s.position.after front } := by
  have length : (front ++ rest).length - rest.length = front.length := by
    simp
  rw [moveTo, h, length, List.take_left]

def marks : List Char := ['?', ':', ',', '[', ']', '\x7b', '\x7d', '#', '&', '*', '!', '|', '>',
  '\x27', '"', '%', '@', '\x60']

theorem startsPlain_word {c : Char} {cs : List Char} (word : isWordChar c = true)
    (apart : ∀ d ∈ marks, c ≠ d) (hyphen : c = '-' → atGap cs = false) :
    startsPlain false c cs = true := by
  by_cases h : c = '-'
  · simp [startsPlain, h, hyphen h]
  · have same : "-?:,[]\x7b\x7d#&*!|>'\"%@`".toList = '-' :: marks := rfl
    have notMark : "-?:,[]\x7b\x7d#&*!|>'\"%@`".toList.contains c = false := by
      rw [← Bool.not_eq_true, List.contains_iff_mem, same, List.mem_cons, not_or]
      exact ⟨h, fun mark => apart c mark rfl⟩
    rw [startsPlain, notMark, not_isBlank_of_isWordChar word, not_isBreak_of_isWordChar word]
    rfl

theorem next_word {s : TokenStream} (block : s.inFlow = false) {c : Char} {cs : List Char}
    (word : isWordChar c = true) (hyphen : c = '-' → atGap cs = false)
    (noMark : s.column = 0 → c ≠ '-' ∧ c ≠ '.') : s.next c cs = s.plain := by
  have others : marks.all (fun d => !isWordChar d) = true := rfl
  have apart (d : Char) (h : d ∈ marks) : c ≠ d :=
    ne_of_isWordChar word (by simpa using List.all_eq_true.1 others d h)
  have starts := startsPlain_word word apart hyphen
  have notEntry : (c == '-' && atGap cs) = false := by
    rw [Bool.and_eq_false_imp, beq_iff_eq]
    exact hyphen
  have notStart : (s.column == 0 && atMark '-' (c :: cs)) = false := by
    rw [Bool.and_eq_false_imp, beq_iff_eq]
    intro start
    simp [atMark, (noMark start).1]
  have notEnd : (s.column == 0 && atMark '.' (c :: cs)) = false := by
    rw [Bool.and_eq_false_imp, beq_iff_eq]
    intro start
    simp [atMark, (noMark start).2]
  simp [marks] at apart
  simp [next, notStart, notEnd, notEntry, starts, apart, block]

def afterLines (read : List Line) (index line : Nat) (rest : List Char) : TokenStream :=
  ⟨rest, ⟨index, line, 0⟩, 0, if read.isEmpty then [] else [0], true, [], keyMarks read.length,
    (read.flatMap Line.tokens).toArray⟩

def afterKey (read : List Line) (index line : Nat) (key : List Char) (rest : List Char) :
    TokenStream :=
  ⟨rest, ⟨index + key.length, line, key.length⟩, 0, if read.isEmpty then [] else [0], false,
    [(0, ⟨3 * read.length, ⟨index, line, 0⟩, !read.isEmpty⟩)], keyMarks read.length,
    (read.flatMap Line.tokens).toArray.push (.scalar (String.ofList key) true)⟩

def afterColon (read : List Line) (p : Position) (key : List Char) (rest : List Char) :
    TokenStream :=
  ⟨rest, p, 0, [0], false, [], keyMarks (read.length + 1),
    ((read.flatMap Line.tokens).toArray.push (.scalar (String.ofList key) true)).push .value⟩

theorem size_tokens (read : List Line) :
    (read.flatMap Line.tokens).toArray.size = 3 * read.length := by
  induction read with
  | nil => rfl
  | cons l read ih =>
    simp [Line.tokens] at ih ⊢
    omega

theorem run_of_next {bound : Nat} {s u : TokenStream} (t : TokenStream) (c : Char) (cs : List Char)
    (skipped : s.toNext.dropStaleKeys = .ok t) (isOpen : t.closeFrom t.column = t)
    (rest : t.rest = c :: cs) (next : t.next c cs = .ok u) : run (bound + 1) s = run bound u := by
  simp [run, skipped, isOpen, rest, next]

theorem toNext_eq {s : TokenStream} (c : Char) (cs : List Char) (rest : s.rest = c :: cs)
    (noGap : isBreak c = false ∧ c ≠ ' ' ∧ c ≠ '#' ∧ c ≠ byteOrderMark) : s.toNext = s := by
  obtain ⟨noBreak, noSpace, noComment, noMark⟩ := noGap
  have skipped : skipGap false false (c :: cs) = (false, c :: cs) := by
    simp [skipGap, noBreak, noSpace, noComment]
  obtain ⟨_, position, depth, columns, mayStartKey, possibleKeys, keys, tokens⟩ := s
  obtain rfl := rest
  simp [toNext, noMark, skipped, moveTo, Position.after]

theorem toNext_space {s : TokenStream} {c : Char} {cs : List Char} (rest : s.rest = ' ' :: c :: cs)
    (noGap : isBreak c = false ∧ c ≠ ' ' ∧ c ≠ '#' ∧ c ≠ byteOrderMark) :
    s.toNext = { s with rest := c :: cs, position := s.position.after [' '] } := by
  obtain ⟨noBreak, noSpace, noComment, -⟩ := noGap
  have skipped : skipGap false false (' ' :: c :: cs) = (false, c :: cs) := by
    have space : isBreak ' ' = false := rfl
    simp [skipGap, space, noBreak, noSpace, noComment]
  have mark : ' ' ≠ byteOrderMark := by decide
  obtain ⟨_, position, depth, columns, mayStartKey, possibleKeys, keys, tokens⟩ := s
  obtain rfl := rest
  simp [toNext, mark, skipped, moveTo]

theorem dropStaleKeys_eq {s : TokenStream}
    (fresh : ∀ k ∈ s.possibleKeys, isTooFar s.position k.2 = false) : s.dropStaleKeys = .ok s := by
  have none : s.possibleKeys.filter (fun k => isTooFar s.position k.2) = [] := by
    simpa using fresh
  have all : s.possibleKeys.filter (fun k => !isTooFar s.position k.2) = s.possibleKeys := by
    simpa using fresh
  rw [dropStaleKeys, none, all]
  rfl

theorem noGap_of_isWordChar {c : Char} (h : isWordChar c = true) :
    isBreak c = false ∧ c ≠ ' ' ∧ c ≠ '#' ∧ c ≠ byteOrderMark :=
  ⟨not_isBreak_of_isWordChar h, ne_of_isWordChar h rfl, ne_of_isWordChar h rfl,
    ne_of_isWordChar h rfl⟩

theorem plain_eq {s : TokenStream} (keyless : s.possibleKeys = []) {p : PlainScalar}
    (scalar : readPlain s.inFlow (s.indent + 1) s.rest = p) :
    s.plain = .ok (({ s with
      possibleKeys := if s.mayStartKey then [(s.depth, s.possibleKey)] else []
      mayStartKey := p.passedLine }.push (.scalar (String.ofList p.text) true)).moveTo p.rest) := by
  subst scalar
  obtain ⟨rest, position, depth, columns, mayStartKey, possibleKeys, keys, tokens⟩ := s
  obtain rfl := keyless
  cases mayStartKey <;> rfl

theorem run_key (bound : Nat) (read : List Line) (index line : Nat) {key : List Char}
    (word : IsKeyWord key) (rest : List Char) :
    run (bound + 1) (afterLines read index line (key ++ ':' :: ' ' :: rest)) =
      run bound (afterKey read index line key (':' :: ' ' :: rest)) := by
  obtain ⟨c, cs, rfl⟩ := List.exists_cons_of_ne_nil word.some
  have first := word.chars c List.mem_cons_self
  have noMark : c ≠ '-' ∧ c ≠ '.' := by simpa using word.noMark
  refine run_of_next (afterLines read index line (c :: cs ++ ':' :: ' ' :: rest)) c
    (cs ++ ':' :: ' ' :: rest) ?_ ?_ rfl ?_
  · rw [toNext_eq c (cs ++ ':' :: ' ' :: rest) rfl (noGap_of_isWordChar first)]
    rfl
  · cases read <;> simp [afterLines, closeFrom, inFlow, column]
  · rw [next_word rfl first (fun h => absurd h noMark.1) fun _ => noMark]
    have passed := after_append ⟨index, line, 0⟩ word.chars []
    have place := size_tokens read
    have keyless : (afterLines read index line (c :: cs ++ ':' :: ' ' :: rest)).possibleKeys = [] :=
      rfl
    rw [List.append_nil] at passed
    rw [plain_eq keyless (readPlain_key word.toIsWord _), moveTo_append _ (c :: cs) rfl]
    simp only [push, afterLines, passed, Position.after, possibleKey, place, afterKey]
    -- Only below a mapping that is open at the column must the name be a key.
    cases read <;> simp [inFlow, indent, column]

theorem run_colon (bound : Nat) (read : List Line) (index line : Nat) {key : List Char}
    (short : key.length < 123) (rest : List Char) :
    run (bound + 1) (afterKey read index line key (':' :: ' ' :: rest)) =
      run bound (afterColon read ⟨index + key.length + 1, line, key.length + 1⟩ key
        (' ' :: rest)) := by
  refine run_of_next (afterKey read index line key (':' :: ' ' :: rest)) ':' (' ' :: rest)
    ?_ ?_ rfl ?_
  · rw [toNext_eq ':' (' ' :: rest) rfl (by decide)]
    refine dropStaleKeys_eq ?_
    simp [afterKey, isTooFar]
    omega
  · cases read <;> simp [afterKey, closeFrom, inFlow, column]
  · have noMark : atMark '-' (':' :: ' ' :: rest) = false ∧
        atMark '.' (':' :: ' ' :: rest) = false := by
      simp [atMark]
    have isValue : (afterKey read index line key (':' :: ' ' :: rest)).next ':' (' ' :: rest) =
        (afterKey read index line key (':' :: ' ' :: rest)).value (' ' :: rest) := by
      simp [next, noMark, atGap, isBlank]
    have passed : (⟨index + key.length, line, key.length⟩ : Position).after [':'] =
        ⟨index + key.length + 1, line, key.length + 1⟩ := rfl
    rw [isValue]
    -- The mapping begins with the first line and is open in the others.
    cases read <;>
      simp [value, afterKey, afterColon, push, moveTo, inFlow, indent, passed, keyMarks, pure,
        Except.pure]

theorem run_word (bound : Nat) (read : List Line) (p : Position) (l : Line) {rest : List Char}
    (next : AtLine rest) : ∃ index,
    run (bound + 1) (afterColon read p l.key (' ' :: (l.word ++ '\n' :: rest))) =
      run bound (afterLines (read ++ [l]) index (p.line + 1) rest) := by
  obtain ⟨key, word, isKeyWord, isWord⟩ := l
  obtain ⟨c, cs, rfl⟩ := List.exists_cons_of_ne_nil isWord.some
  let t := afterColon read ⟨p.index + 1, p.line, p.column + 1⟩ key (c :: cs ++ '\n' :: rest)
  have first := isWord.chars c List.mem_cons_self
  have hyphen : c = '-' → atGap (cs ++ '\n' :: rest) = false := by
    rintro rfl
    cases cs with
    | nil => exact absurd rfl isWord.noHyphen
    | cons d ds =>
      have second := isWord.chars d (List.mem_cons_of_mem _ List.mem_cons_self)
      simp [atGap, not_isBlank_of_isWordChar second, not_isBreak_of_isWordChar second]
  refine ⟨p.index + 1 + (c :: cs).length + 1, run_of_next t c (cs ++ '\n' :: rest)
    ?_ ?_ rfl ?_⟩
  · have skipped : (afterColon read p key (' ' :: (c :: cs ++ '\n' :: rest))).toNext = t :=
      toNext_space rfl (noGap_of_isWordChar first)
    rw [skipped]
    exact dropStaleKeys_eq (by simp [t, afterColon])
  · have inside : ¬(p.column + 1 : Int) < 0 := by omega
    simp [t, closeFrom, afterColon, inFlow, column, inside]
  · have passed := after_append ⟨p.index + 1, p.line, p.column + 1⟩ isWord.chars ['\n']
    have indented : 0 < t.indent + 1 := Int.one_pos
    have keyless : t.possibleKeys = [] := rfl
    rw [next_word rfl first hyphen fun h => by simp [t, afterColon, column] at h,
      plain_eq keyless (readPlain_value isWord next indented),
      moveTo_append _ (c :: cs ++ ['\n']) (by simp [t, push, afterColon])]
    simp only [push, t, afterColon, passed, afterLines]
    simp [Position.after, isBreak, Line.tokens]

theorem run_line (bound : Nat) (read : List Line) (index line : Nat) (l : Line) {rest : List Char}
    (next : AtLine rest) : ∃ index',
    run (bound + 3) (afterLines read index line (l.text ++ rest)) =
      run bound (afterLines (read ++ [l]) index' (line + 1) rest) := by
  obtain ⟨index', word⟩ :=
    run_word bound read ⟨index + l.key.length + 1, line, l.key.length + 1⟩ l next
  have key := run_key (bound + 2) read index line l.isKeyWord (l.word ++ '\n' :: rest)
  have colon := run_colon (bound + 1) read index line l.isKeyWord.short (l.word ++ '\n' :: rest)
  have text : l.text ++ rest = l.key ++ ':' :: ' ' :: (l.word ++ '\n' :: rest) := by
    simp [Line.text]
  exact ⟨index', by rw [text, key, colon, word]⟩

theorem run_end (bound : Nat) {read : List Line} (some : read ≠ []) (index line : Nat) :
    ∃ s, run (bound + 1) (afterLines read index line []) = (s, none) ∧
      s.keys = keyMarks read.length ∧
      s.tokens.toList = read.flatMap Line.tokens ++ [.blockEnd, .streamEnd] := by
  refine ⟨((afterLines read index line []).closeFrom (-1)).push .streamEnd, ?_, ?_, ?_⟩
  · have still : (afterLines read index line []).toNext = afterLines read index line [] := rfl
    have fresh := dropStaleKeys_eq (s := afterLines read index line []) (by simp [afterLines])
    have isOpen : (afterLines read index line []).closeFrom 0 = afterLines read index line [] := by
      cases read <;> rfl
    have ends : (afterLines read index line []).finish =
        .ok (((afterLines read index line []).closeFrom (-1)).push .streamEnd) := rfl
    have column : (afterLines read index line []).column = 0 := rfl
    have rest : (afterLines read index line []).rest = [] := rfl
    simp [run, still, fresh, isOpen, ends, column, rest]
  · simp [push, closeFrom, afterLines, inFlow]
  · simp [push, closeFrom, afterLines, inFlow, some]

theorem run_lines (bound : Nat) (lines read : List Line) (some : read ++ lines ≠ [])
    (index line : Nat) :
    ∃ s, run (3 * lines.length + (bound + 1))
        (afterLines read index line (lines.flatMap Line.text)) = (s, none) ∧
      s.keys = keyMarks (read ++ lines).length ∧
      s.tokens.toList = (read ++ lines).flatMap Line.tokens ++ [.blockEnd, .streamEnd] := by
  -- Each line that is passed is appended to those that are read, with its marks and tokens.
  induction lines generalizing read index line with
  | nil =>
    rw [List.append_nil] at some ⊢
    rw [List.length_nil, Nat.mul_zero, Nat.zero_add]
    exact run_end bound some index line
  | cons l lines ih =>
    obtain ⟨index', step⟩ := run_line (3 * lines.length + (bound + 1)) read index line l
      (AtLine.text lines)
    have same : read ++ l :: lines = read ++ [l] ++ lines := by simp
    have fuel : 3 * (l :: lines).length + (bound + 1) = 3 * lines.length + (bound + 1) + 3 := by
      rw [List.length_cons]
      omega
    rw [same] at some ⊢
    rw [List.flatMap_cons, fuel, step]
    exact ih (read ++ [l]) some index' (line + 1)

end TokenStream

open TokenStream

theorem find?_keyMarks (n place : Nat) :
    (keyMarks n).find? (·.place == place) =
      if place % 3 = 0 ∧ place < 3 * n then some ⟨place, place == 0⟩ else none := by
  induction n with
  | zero => simp [keyMarks]
  | succ n ih =>
    rw [keyMarks]
    by_cases here : 3 * n = place
    · have inside : place % 3 = 0 ∧ place < 3 * (n + 1) := by omega
      rw [List.find?_cons_of_pos (by simpa using here), if_pos inside, ← here]
      have first : (n == 0) = (3 * n == 0) := by
        rw [Bool.eq_iff_iff, beq_iff_eq, beq_iff_eq]
        omega
      rw [first]
    · have same : (place % 3 = 0 ∧ place < 3 * (n + 1)) ↔ (place % 3 = 0 ∧ place < 3 * n) := by
        omega
      rw [List.find?_cons_of_neg (by simpa using here), ih]
      simp only [same]

def Line.markedTokens (l : Line) : List Token := .key :: l.tokens

theorem withKeys_end (n : Nat) {place : Nat} (h : 3 * n ≤ place) (ends : List Token) :
    withKeys (keyMarks n) place ends = ends := by
  induction ends generalizing place with
  | nil => rfl
  | cons t ends ih =>
    have none : ¬(place % 3 = 0 ∧ place < 3 * n) := by omega
    rw [withKeys, find?_keyMarks, if_neg none, ih (by omega)]
    rfl

theorem withKeys_line (n place : Nat) (h : place < n) (l : Line) (ts : List Token) :
    withKeys (keyMarks n) (3 * place) (l.tokens ++ ts) =
      (if place = 0 then [.blockMappingStart] else []) ++ l.markedTokens ++
        withKeys (keyMarks n) (3 * (place + 1)) ts := by
  have first : 3 * place % 3 = 0 ∧ 3 * place < 3 * n := by omega
  have second : ¬((3 * place + 1) % 3 = 0 ∧ 3 * place + 1 < 3 * n) := by omega
  have third : ¬((3 * place + 1 + 1) % 3 = 0 ∧ 3 * place + 1 + 1 < 3 * n) := by omega
  simp only [Line.tokens, List.cons_append, List.nil_append, withKeys, find?_keyMarks, if_pos first,
    if_neg second, if_neg third]
  cases place <;> rfl

theorem withKeys_lines (lines : List Line) (ends : List Token) (n place : Nat)
    (later : place ≠ 0) (h : place + lines.length = n) :
    withKeys (keyMarks n) (3 * place) (lines.flatMap Line.tokens ++ ends) =
      lines.flatMap Line.markedTokens ++ ends := by
  induction lines generalizing place with
  | nil => exact withKeys_end n (by simp at h; omega) ends
  | cons l lines ih =>
    rw [List.length_cons] at h
    have rest := ih (place + 1) (by omega) (by omega)
    rw [List.flatMap_cons, List.append_assoc, withKeys_line _ _ (by omega), if_neg later, rest,
      List.nil_append, List.flatMap_cons, List.append_assoc]

theorem length_text (lines : List Line) :
    3 * lines.length ≤ (lines.flatMap Line.text).length := by
  induction lines with
  | nil => exact Nat.le_refl 0
  | cons l lines ih =>
    simp only [List.flatMap_cons, List.length_append, Line.text, List.length_cons]
    omega

theorem Line.mem_text (l : Line) {c : Char} (h : c ∈ l.text) :
    isWordChar c = true ∨ c = ':' ∨ c = ' ' ∨ c = '\n' := by
  simp only [Line.text, List.mem_append, List.mem_cons, List.not_mem_nil, or_false] at h
  rcases h with h | h | h | h | h
  · exact .inl (l.isKeyWord.chars c h)
  · exact .inr (.inl h)
  · exact .inr (.inr (.inl h))
  · exact .inl (l.isWord.chars c h)
  · exact .inr (.inr (.inr h))

theorem tokens_lines {lines : List Line} (some : lines ≠ []) :
    tokens (lines.flatMap Line.text) =
      (.blockMappingStart :: lines.flatMap Line.markedTokens ++ [.blockEnd, .streamEnd], none) := by
  have chars : (lines.flatMap Line.text).all isStreamChar = true := by
    simp only [List.all_eq_true, List.mem_flatMap]
    rintro c ⟨l, -, h⟩
    rcases l.mem_text h with h | rfl | rfl | rfl
    · exact isStreamChar_of_isWordChar h
    all_goals rfl
  obtain ⟨bound, fuel⟩ : ∃ bound, (lines.flatMap Line.text).length + 1 =
      3 * lines.length + (bound + 1) :=
    ⟨(lines.flatMap Line.text).length - 3 * lines.length, by have := length_text lines; omega⟩
  obtain ⟨s, run, keys, tokens⟩ := run_lines bound lines [] some 0 0
  have start : TokenStream.start (lines.flatMap Line.text) =
      afterLines [] 0 0 (lines.flatMap Line.text) := rfl
  rw [Yaml.tokens, if_pos chars, fuel, start, run]
  simp only [keys, tokens, List.nil_append]
  cases lines with
  | nil => contradiction
  | cons l lines =>
    have first := withKeys_line (l :: lines).length 0 (by simp) l
      (lines.flatMap Line.tokens ++ [.blockEnd, .streamEnd])
    have later := withKeys_lines lines [.blockEnd, .streamEnd] (l :: lines).length 1
      (by simp) (by rw [List.length_cons]; omega)
    rw [later] at first
    simpa using first

def plainNode (s : String) : Node := .scalar (.ofPlain s.toList) s

def Line.nodes (l : Line) : Node × Node :=
  (plainNode (String.ofList l.key), plainNode (String.ofList l.word))

namespace NodeReader

variable {r : Reading}

theorem nodeOrEmpty_plain (bound : Nat) (s : String) (ts : List Token) :
    nodeOrEmpty .blockOrEntries [.key, .value, .blockEnd] (bound + 2)
        { r with tokens := .scalar s true :: ts } =
      .ok (plainNode s, { r with tokens := ts }) := by
  rfl

theorem blockPairs_line (bound : Nat) (l : Line) (ts : List Token) :
    blockPairs (bound + 4) { r with tokens := l.markedTokens ++ ts } =
      (blockPairs (bound + 3) { r with tokens := ts }).map fun more =>
        (l.nodes :: more.1, more.2) := by
  let rest : List Token := .value :: .scalar (String.ofList l.word) true :: ts
  have key := nodeOrEmpty_plain (r := r) (bound + 1) (String.ofList l.key) rest
  have value : valueAfter .blockOrEntries [.key, .value, .blockEnd] (bound + 3)
      { r with tokens := rest } = _ :=
    nodeOrEmpty_plain bound (String.ofList l.word) ts
  have step : blockPairs (bound + 4) { r with tokens := l.markedTokens ++ ts } =
      (do
        let key ← nodeOrEmpty .blockOrEntries [.key, .value, .blockEnd] (bound + 3)
        let value ← valueAfter .blockOrEntries [.key, .value, .blockEnd] (bound + 3)
        return (key, value) :: (← blockPairs (bound + 3)) : NodeReader _)
        { r with tokens := .scalar (String.ofList l.key) true :: rest } := rfl
  rw [step]
  simp only [bind, StateT.bind, key, value, Except.bind]
  cases blockPairs (bound + 3) { r with tokens := ts } <;> rfl

theorem blockPairs_lines (lines : List Line) (bound : Nat) :
    blockPairs (bound + lines.length + 3)
        { r with tokens := lines.flatMap Line.markedTokens ++ [.blockEnd, .streamEnd] } =
      .ok (lines.map Line.nodes, { r with tokens := [.blockEnd, .streamEnd] }) := by
  induction lines with
  | nil => rfl
  | cons l lines ih =>
    have step := blockPairs_line (r := r) (bound + lines.length) l
      (lines.flatMap Line.markedTokens ++ [.blockEnd, .streamEnd])
    have fuel : bound + (l :: lines).length + 3 = bound + lines.length + 4 := by
      rw [List.length_cons]
      omega
    rw [fuel, List.flatMap_cons, List.append_assoc, step, ih]
    rfl

theorem node_mapping {bound : Nat} {ts : List Token} {pairs : List (Node × Node)}
    (inside : blockPairs bound { r with tokens := ts } =
      .ok (pairs, { r with tokens := [.blockEnd, .streamEnd] })) :
    node .block (bound + 1) { r with tokens := .blockMappingStart :: ts } =
      .ok (.mapping .mapping pairs, { r with tokens := [.streamEnd] }) := by
  have start : node .block (bound + 1) { r with tokens := .blockMappingStart :: ts } =
      NodeReader.collection none (do
        let pairs ← blockPairs bound
        expect .blockEnd
        pure (.mapping .mapping pairs)) { r with tokens := ts } := rfl
  rw [start]
  simp [collection, nameNode, inside, bind, StateT.bind, Except.bind, pure, StateT.pure,
    Except.pure]
  rfl

theorem stream_mapping {ts : List Token} {n : Node}
    (inside : node .block (2 * (Token.blockMappingStart :: ts).length + 2)
        { r with tokens := .blockMappingStart :: ts } =
      .ok (n, { r with tokens := [.streamEnd] })) :
    stream { r with tokens := .blockMappingStart :: ts } =
      .ok (some n, { r with tokens := [] }) := by
  have document : document { r with tokens := .blockMappingStart :: ts } =
      (node .block (2 * (Token.blockMappingStart :: ts).length + 2)
        { r with tokens := .blockMappingStart :: ts }).map fun a => (some a.1, a.2) := rfl
  rw [inside] at document
  simp [stream, document, bind, StateT.bind, Except.bind, Except.map]
  rfl

end NodeReader

theorem length_markedTokens (lines : List Line) :
    (lines.flatMap Line.markedTokens).length = 4 * lines.length := by
  induction lines with
  | nil => rfl
  | cons l lines ih =>
    simp only [List.flatMap_cons, List.length_append, Line.markedTokens, Line.tokens,
      List.length_cons, List.length_nil, ih]
    omega

/-- Some lines are a mapping. -/
theorem readNode?_lines {lines : List Line} (some : lines ≠ []) :
    readNode? (lines.flatMap Line.text) =
      .ok (Option.some (.mapping .mapping (lines.map Line.nodes))) := by
  let r : Reading := ⟨[], .invalid, NodeReader.standardHandles, []⟩
  let ts := lines.flatMap Line.markedTokens ++ [.blockEnd, .streamEnd]
  obtain ⟨bound, fuel⟩ : ∃ bound, 2 * (Token.blockMappingStart :: ts).length + 2 =
      bound + lines.length + 3 + 1 := by
    refine ⟨7 * lines.length + 4, ?_⟩
    simp only [ts, List.length_cons, List.length_append, length_markedTokens, List.length_nil]
    omega
  have node := NodeReader.node_mapping (r := r) (NodeReader.blockPairs_lines lines bound)
  rw [← fuel] at node
  have stream := NodeReader.stream_mapping node
  rw [readNode?, tokens_lines some]
  simp only [Option.getD_none, List.cons_append, StateT.run]
  simp only [r, ts] at stream
  rw [stream]

theorem isCollection_ofPlain (cs : List Char) : (Tag.ofPlain cs).isCollection = false := by
  unfold Tag.ofPlain
  dsimp only
  split_ifs <;> rfl

/-- The pairs of a mapping that takes in no other one, and what they are made into. -/
structure Yields (ps : List (Node × Node)) (entries : List (Value × Value)) : Prop where
  takesMappings : Node.takesMappings ps = true
  ofPairs : Value.ofPairs ps = ⟨.ok [], .ok entries⟩

namespace Yields

variable {ps : List (Node × Node)} {entries : List (Value × Value)}

theorem nil : Yields [] [] := ⟨rfl, rfl⟩

theorem line {l : Line} {v : Value} (text : Tag.ofPlain l.key = .text)
    (word : Value.ofText (.ofPlain l.word) (String.ofList l.word) = .ok v)
    (later : Yields ps entries) :
    Yields (l.nodes :: ps) ((.text (String.ofList l.key), v) :: entries) := by
  have key : plainNode (String.ofList l.key) = .scalar .text (String.ofList l.key) := by
    rw [plainNode, String.toList_ofList, text]
  have value : Value.ofNode (plainNode (String.ofList l.word)) = .ok v := by
    rw [plainNode, String.toList_ofList, Value.ofNode, if_neg (by simp [isCollection_ofPlain]), word]
    rfl
  refine ⟨?_, ?_⟩
  · rw [Line.nodes, key, Node.takesMappings, later.takesMappings]
    rfl
  · rw [Line.nodes, key, Value.ofPairs, later.ofPairs, value]
    rfl

theorem mapping (h : Yields ps entries) : Value.ofNode (.mapping .mapping ps) = .ok (.record entries) := by
  rw [Value.ofNode, if_pos h.takesMappings, h.ofPairs]
  rfl

end Yields

def Value.ofData : Data → Value
  | .null => .null
  | .truth b => .truth b
  | .integer i => .integer i
  | .real x => .real x
  | .text s => .text s
  | .list items => .list (ofItems items)
  | .record fields => .record (ofFields fields)
where
  ofItems : List Data → List Value
    | [] => []
    | d :: ds => ofData d :: ofItems ds
  ofFields : List (String × Data) → List (Value × Value)
    | [] => []
    | (name, d) :: fields => (.text name, ofData d) :: ofFields fields

structure IsPlainText (s : String) : Prop where
  isWord : IsWord s.toList
  isText : style s.toList = .plain

instance (s : String) : Decidable (IsPlainText s) :=
  decidable_of_iff (IsWord s.toList ∧ style s.toList = .plain)
    ⟨fun h => ⟨h.1, h.2⟩, fun h => ⟨h.isWord, h.isText⟩⟩

inductive IsPlainData : Data → Prop where
  | truth (b : Bool) : IsPlainData (.truth b)
  | real (x : Float) : IsPlainData (.real x)
  | text {s : String} : IsPlainText s → IsPlainData (.text s)

theorem unescaped_word (next : Continuation) (previous : Option Char) (column : Nat)
    {cs : List Char} (word : ∀ c ∈ cs, isWordChar c = true) :
    unescaped false next previous column cs = cs := by
  induction cs generalizing previous column with
  | nil => rfl
  | cons c cs ih =>
    have here := word c List.mem_cons_self
    have lineEnd : c ≠ '\n' := ne_of_isWordChar here rfl
    have space : (c == ' ') = false := beq_eq_false_iff_ne.2 (ne_of_isWordChar here rfl)
    have later (column : Nat) := ih (some c) column fun d h => word d (List.mem_cons_of_mem c h)
    cases next <;> simp [unescaped, lineEnd, space, later]

theorem textForm_plain (next : Continuation) (column : Nat) {s : String} (plain : IsPlainText s) :
    textForm next column s = s.toList := by
  rw [textForm, plain.isText]
  exact unescaped_word next none column plain.isWord.chars

theorem ofPlain_plain {s : String} (plain : IsPlainText s) : Tag.ofPlain s.toList = .text := by
  have h := plain.isText
  rw [style] at h
  split at h
  next h' =>
    rw [Bool.and_eq_true, beq_iff_eq] at h'
    exact h'.2
  next => split at h <;> contradiction

theorem isWordChar_of_isChar {c : Char} (h : Numeral.isChar c = true) : isWordChar c = true := by
  rw [Numeral.isChar, Bool.or_eq_true, List.contains_iff_mem] at h
  rcases h with h | h
  · simp [isWordChar, Char.isAlphanum, h]
  · simp only [List.mem_cons, List.not_mem_nil, or_false] at h
    rcases h with rfl | rfl | rfl | rfl
    all_goals rfl

theorem isWord_signedText (isNegative : Bool) (n : Numeral) :
    IsWord (Numeral.signedText isNegative n) := by
  obtain ⟨d, cs, split, digit⟩ := n.text_eq_cons
  refine ⟨?_, ?_, fun c h => isWordChar_of_isChar (Numeral.isChar_of_mem_signedText h)⟩
  · cases isNegative <;> simp [Numeral.signedText, split]
  · cases isNegative with
    | true => simp [Numeral.signedText, split]
    | false =>
      rintro same
      obtain ⟨rfl, -⟩ : d = '-' ∧ cs = [] := by simpa [Numeral.signedText, split] using same
      contradiction

theorem isWord_write (x : Float) : IsWord (number.write x).toList := by
  obtain ⟨-, form⟩ | ⟨-, form⟩ | ⟨-, form⟩ | ⟨isNegative, n, form, -⟩ := write_cases x
  · rw [form]
    decide
  · rw [form]
    decide
  · rw [form]
    decide
  · rw [form]
    exact isWord_signedText isNegative n

theorem IsPlainData.exists_word {d : Data} (plain : IsPlainData d) :
    ∃ word : List Char, IsWord word ∧ (∀ column, form 0 column false d = ' ' :: word) ∧
      Value.ofText (.ofPlain word) (String.ofList word) = .ok (.ofData d) := by
  cases plain with
  | truth b =>
    refine ⟨(if b then "true" else "false").toList, ?_, fun column => ?_, ?_⟩
    · cases b <;> decide
    · cases b <;> rfl
    · have tag : Tag.ofPlain "true".toList = .truth ∧ Tag.ofPlain "false".toList = .truth := by
        decide +kernel
      cases b
      · rw [if_neg Bool.false_ne_true, tag.2]
        rfl
      · rw [if_pos rfl, tag.1]
        rfl
  | real x =>
    refine ⟨(number.write x).toList, isWord_write x, fun column => by rw [form], ?_⟩
    rw [ofPlain_write, Value.ofText, String.toList_ofList, readReal_write]
    rfl
  | @text s plain =>
    refine ⟨s.toList, plain.isWord, fun column => ?_, ?_⟩
    · rw [form, textForm_plain _ _ plain]
    · rw [ofPlain_plain plain, Value.ofText, String.ofList_toList]
      rfl

/-- A field that stands in a line of its own. -/
structure IsPlainField (f : String × Data) : Prop where
  name : IsPlainText f.1
  isKeyWord : IsKeyWord f.1.toList
  data : IsPlainData f.2

theorem exists_lines {fields : List (String × Data)} (plain : ∀ f ∈ fields, IsPlainField f) :
    ∃ lines : List Line,
      form.fieldForms 0 fields = lines.map (fun l => l.key ++ ':' :: ' ' :: l.word) ∧
      Yields (lines.map Line.nodes) (Value.ofData.ofFields fields) := by
  induction fields with
  | nil => exact ⟨[], rfl, .nil⟩
  | cons f fields ih =>
    obtain ⟨lines, forms, values⟩ := ih fun g h => plain g (List.mem_cons_of_mem f h)
    obtain ⟨name, isKeyWord, data⟩ := plain f List.mem_cons_self
    obtain ⟨word, isWord, written, value⟩ := data.exists_word
    obtain ⟨key, d⟩ := f
    let l : Line := ⟨key.toList, word, isKeyWord, isWord⟩
    have text : Tag.ofPlain l.key = .text := ofPlain_plain name
    have simple : isSimpleKey key = true := by
      have lineEnd : '\n' ∉ key.toList := fun h =>
        ne_of_isWordChar (isKeyWord.chars _ h) (d := '\n') rfl rfl
      have short : key.length < 123 := isKeyWord.short
      have some : key ≠ "" := by
        rintro rfl
        exact isKeyWord.some rfl
      simp [isSimpleKey, lineEnd, short, some]
    refine ⟨l :: lines, ?_, ?_⟩
    · simp [form.fieldForms, simple, textForm_plain none 0 name, written, forms, l]
    · have made := values.line (l := l) text value
      rw [String.ofList_toList] at made
      exact made

theorem intercalate_append_break (forms : List (List Char)) (some : forms ≠ []) :
    List.intercalate ['\n'] forms ++ ['\n'] = forms.flatMap (· ++ ['\n']) := by
  induction forms with
  | nil => contradiction
  | cons f forms ih =>
    cases forms with
    | nil => simp
    | cons g forms =>
      rw [List.intercalate_cons_cons, List.append_assoc, ih (by simp), List.flatMap_cons,
        List.flatMap_cons, List.flatMap_cons]

theorem exists_text {fields : List (String × Data)} (some : fields ≠ [])
    (plain : ∀ f ∈ fields, IsPlainField f) :
    ∃ lines : List Line, lines ≠ [] ∧ (text fields).toList = lines.flatMap Line.text ∧
      Yields (lines.map Line.nodes) (Value.ofData.ofFields fields) := by
  obtain ⟨lines, forms, values⟩ := exists_lines plain
  have formsSome : form.fieldForms 0 fields ≠ [] := by
    cases fields with
    | nil => contradiction
    | cons f fields => simp [form.fieldForms]
  have each (l : Line) : (l.key ++ ':' :: ' ' :: l.word) ++ ['\n'] = l.text := by
    simp [Line.text]
  refine ⟨lines, ?_, ?_, values⟩
  · rintro rfl
    exact formsSome forms
  · rw [text, String.toList_ofList, intercalate_append_break _ formsSome, forms, List.flatMap_map]
    simp only [each]

/-- A record of plain fields is read as it is written. -/
theorem read_text {fields : List (String × Data)} (some : fields ≠ [])
    (plain : ∀ f ∈ fields, IsPlainField f) :
    read (text fields).toList = .ok (.ofData (.record fields)) := by
  obtain ⟨lines, lineSome, whole, values⟩ := exists_text some plain
  rw [whole, read, readNode?_lines lineSome]
  simp only [bind, Except.bind, values.mapping]
  rfl

theorem ascii_of_mem_text {fields : List (String × Data)} (some : fields ≠ [])
    (plain : ∀ f ∈ fields, IsPlainField f) {c : Char} (h : c ∈ (text fields).toList) :
    c.toNat < 128 ∧ c ≠ '\r' := by
  obtain ⟨lines, -, whole, -⟩ := exists_text some plain
  rw [whole, List.mem_flatMap] at h
  obtain ⟨l, -, h⟩ := h
  have word (h : isWordChar c = true) : c.toNat < 128 ∧ c ≠ '\r' :=
    ⟨by have := bounds_of_isWordChar h; omega, ne_of_isWordChar h rfl⟩
  rcases l.mem_text h with h | rfl | rfl | rfl
  · exact word h
  all_goals decide

end Articulation.Yaml
