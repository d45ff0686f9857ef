import ChromiumQnx.Foundation.StringSearch
import Mathlib.Algebra.Group.Nat.Defs
import Mathlib.Data.List.DropRight
import Mathlib.Tactic.Common

/-!
# The search loops of the network code

On QNX the searches of `mime_util.cc`, `http_chunked_decoder.cc` and `http_util.cc` are loops over
the characters.  Each of them returns what the string search returns that it replaces.  In
`ParseMimeType` six of them feed one another through `offset`; the whole function is modelled over
the pair of searches, so that its two versions are two instances of one definition.

Some lines of `ParseMimeType` lie between the lines that the port touches.  They are parameters,
with what the surrounding lines and comments say of them.
-/

namespace ChromiumQnx

open StringSearch

/-! ## The searches -/

/-- `std::string::npos`, for the 32-bit `size_t` of the target. -/
def npos : ℕ := 2 ^ 32 - 1

/-- `base::StringPiece` and `std::string`: bytes, fewer than `npos`. -/
structure StringPiece where
  bytes : List UInt8
  length_lt : bytes.length < npos

/-- `find_first_of`. -/
def findFirstOf (s : StringPiece) (chars : CString) (pos : ℕ) : ℕ :=
  firstFrom npos (fun c => decide (c ∈ chars.chars)) s.bytes pos

/-- `find_first_not_of`. -/
def findFirstNotOf (s : StringPiece) (chars : CString) (pos : ℕ) : ℕ :=
  firstFrom npos (fun c => !decide (c ∈ chars.chars)) s.bytes pos

/-- `find` of a character. -/
def findChar (s : StringPiece) (target : UInt8) : ℕ :=
  firstFrom npos (fun c => decide (c = target)) s.bytes 0

/-- `QnxFindFirstOf` of `mime_util.cc`. -/
def qnxFindFirstOf (s : StringPiece) (chars : CString) (start : ℕ) : ℕ :=
  indexLoop npos (fun c => charLoop c chars.memory) s.bytes start

/-- `QnxFindFirstNotOf`: its inner loop sets `found`. -/
def qnxFindFirstNotOf (s : StringPiece) (chars : CString) (start : ℕ) : ℕ :=
  indexLoop npos (fun c => !charLoop c chars.memory) s.bytes start

/-- `QnxFindFirstOf` of `http_util.cc`, which has no start. -/
def httpUtilQnxFindFirstOf (s : StringPiece) (chars : CString) : ℕ :=
  indexLoop npos (fun c => charLoop c chars.memory) s.bytes 0

/-- `QnxFindChar` of `http_chunked_decoder.cc`. -/
def qnxFindChar (s : StringPiece) (target : UInt8) : ℕ :=
  indexLoop npos (fun c => decide (c = target)) s.bytes 0

/-- `FindStatusLineEnd` with `find_first_of`. -/
def findStatusLineEnd (s : StringPiece) : ℕ :=
  let i := findFirstOf s ⟨[13, 10], by decide⟩ 0
  if i = npos then s.bytes.length else i

/-- `FindStatusLineEnd` with its loop, which returns the size when it finds no line end. -/
def qnxFindStatusLineEnd (s : StringPiece) : ℕ :=
  indexLoop s.bytes.length (fun c => decide (c = 13 ∨ c = 10)) s.bytes 0

/-! ## Each loop is the search it replaces -/

lemma qnxFindFirstOf_eq (s : StringPiece) (chars : CString) (start : ℕ) :
    qnxFindFirstOf s chars start = findFirstOf s chars start := by
  unfold qnxFindFirstOf findFirstOf
  rw [indexLoop_eq_firstFrom, funext fun c => charLoop_memory c chars]

lemma qnxFindFirstNotOf_eq (s : StringPiece) (chars : CString) (start : ℕ) :
    qnxFindFirstNotOf s chars start = findFirstNotOf s chars start := by
  unfold qnxFindFirstNotOf findFirstNotOf
  rw [indexLoop_eq_firstFrom, funext fun c => congrArg not (charLoop_memory c chars)]

lemma httpUtilQnxFindFirstOf_eq (s : StringPiece) (chars : CString) :
    httpUtilQnxFindFirstOf s chars = findFirstOf s chars 0 :=
  qnxFindFirstOf_eq s chars 0

lemma qnxFindChar_eq (s : StringPiece) (target : UInt8) :
    qnxFindChar s target = findChar s target :=
  indexLoop_eq_firstFrom npos _ s.bytes 0

lemma qnxFindStatusLineEnd_eq (s : StringPiece) : qnxFindStatusLineEnd s = findStatusLineEnd s := by
  have htest : (fun c : UInt8 => decide (c = 13 ∨ c = 10)) = fun c => decide (c ∈ [13, 10]) := by
    funext c
    rw [decide_eq_decide, List.mem_pair]
  unfold qnxFindStatusLineEnd findStatusLineEnd findFirstOf
  rw [indexLoop_eq_firstFrom, htest]
  rcases firstFrom_cases (fun c => decide (c ∈ [13, 10])) s.bytes 0 with
    hnone | ⟨i, hi, -, -, hfound⟩
  · simp only [hnone, if_true]
  · -- a position inside the string is not `npos`
    have hne : i ≠ npos := Nat.ne_of_lt (Nat.lt_trans hi s.length_lt)
    simp only [hfound, if_neg hne]

/-- A search gives `npos` or a position inside the string, not before its start, whose character the
set holds. -/
lemma findFirstOf_cases (s : StringPiece) (chars : CString) (pos : ℕ) :
    findFirstOf s chars pos = npos ∨ ∃ c ∈ chars.chars, pos ≤ findFirstOf s chars pos ∧
      s.bytes[findFirstOf s chars pos]? = some c := by
  unfold findFirstOf
  rcases firstFrom_cases (fun c => decide (c ∈ chars.chars)) s.bytes pos with
    hnone | ⟨i, hi, hpos, hhit, hfound⟩
  · exact Or.inl (hnone npos)
  · rw [hfound npos]
    exact Or.inr ⟨s.bytes[i], of_decide_eq_true hhit, hpos, List.getElem?_eq_getElem hi⟩

/-- A search for what is not in the set gives `npos` or a position inside the string, not before its
start. -/
lemma findFirstNotOf_cases (s : StringPiece) (chars : CString) (pos : ℕ) :
    findFirstNotOf s chars pos = npos ∨ ∃ c, pos ≤ findFirstNotOf s chars pos ∧
      s.bytes[findFirstNotOf s chars pos]? = some c := by
  unfold findFirstNotOf
  rcases firstFrom_cases (fun c => !decide (c ∈ chars.chars)) s.bytes pos with
    hnone | ⟨i, hi, hpos, -, hfound⟩
  · exact Or.inl (hnone npos)
  · rw [hfound npos]
    exact Or.inr ⟨s.bytes[i], hpos, List.getElem?_eq_getElem hi⟩
/-! ## `ParseMimeType` -/

/-- The two searches that `ParseMimeType` is written with. -/
structure Searches where
  findFirstOf : StringPiece → CString → ℕ → ℕ
  findFirstNotOf : StringPiece → CString → ℕ → ℕ

/-- The searches of `std::string`. -/
def stdSearches : Searches := ⟨findFirstOf, findFirstNotOf⟩

/-- The loops on QNX. -/
def qnxSearches : Searches := ⟨qnxFindFirstOf, qnxFindFirstNotOf⟩

/-- The lines of `ParseMimeType` that the port leaves alone, and the macro `HTTP_LWS`.  There is
nothing more to do after a parameter name, and the loop continues, at the end of the string or at a
semicolon; otherwise the name is taken and the offset moves behind the equals sign.  A quoted value
ends behind its opening quote, at its closing quote or at the end of the string. -/
structure UnchangedLines where
  httpLws : CString
  mimeType : StringPiece → ℕ → ℕ → List UInt8
  parameterName : StringPiece → ℕ → ℕ → Option (List UInt8 × ℕ)
  unquotedValue : StringPiece → ℕ → ℕ → List UInt8
  quotedValue : StringPiece → ℕ → List UInt8 × ℕ
  name_none : ∀ s start offset, parameterName s start offset = none ↔
    offset = npos ∨ s.bytes[offset]? = some 59
  name_next : ∀ s start offset name next, parameterName s start offset = some (name, next) →
    next = offset + 1
  quoted_next : ∀ s offset, offset < s.bytes.length →
    offset < (quotedValue s offset).2 ∧ (quotedValue s offset).2 ≤ s.bytes.length

/-- What a run of `ParseMimeType` must not do: evaluate `type_str[offset]` outside the string, fail
a `DCHECK`, or go on with its parameter loop. -/
inductive ParseFault where
  | outOfRange
  | dcheck
  | outOfRounds
  deriving DecidableEq, Repr

/-- `type_str[offset]`. -/
def charAt (s : StringPiece) (offset : ℕ) : Except ParseFault UInt8 :=
  match s.bytes[offset]? with
  | some c => .ok c
  | none => .error .outOfRange

/-- A parameter: its name and its value. -/
abbrev Parameter := List UInt8 × List UInt8

/-- `";"`. -/
def semicolon : CString := ⟨[59], by decide⟩

/-- The part of a round of the parameter loop that reads the value, with `offset` behind the spaces
that follow the equals sign: the parameter, if there is one, and the offset after the round. -/
def parameterValue (F : Searches) (L : UnchangedLines) (s : StringPiece) (name : List UInt8)
    (offset : ℕ) : Except ParseFault (Option Parameter × ℕ) :=
  if offset = npos then .ok (none, offset) else do
  let c ← charAt s offset
  if c = 59 then .ok (none, offset) else
  if c ≠ 34 then
    let valueEnd := F.findFirstOf s semicolon offset
    .ok (some (name, L.unquotedValue s offset valueEnd), valueEnd)
  else
    let quoted := L.quotedValue s offset
    .ok (some (name, quoted.1), F.findFirstOf s semicolon quoted.2)

/-- The part of a round behind the search for the end of the name.  The unchanged line there reads
the character at the offset, unless the search found none. -/
def parameterFrom (F : Searches) (L : UnchangedLines) (s : StringPiece) (nameStart offset : ℕ) :
    Except ParseFault (Option Parameter × ℕ) :=
  if offset = npos then .ok (none, offset) else do
  let _ ← charAt s offset
  match L.parameterName s nameStart offset with
  | none => .ok (none, offset)
  | some (name, next) => parameterValue F L s name (F.findFirstNotOf s L.httpLws next)

/-- A round of the parameter loop. -/
def parameterRound (F : Searches) (L : UnchangedLines) (s : StringPiece) (offset : ℕ) :
    Except ParseFault (Option Parameter × ℕ) := do
  let c ← charAt s offset
  if c ≠ 59 then .error .dcheck else
  let nameStart := F.findFirstNotOf s L.httpLws (offset + 1)
  parameterFrom F L s nameStart (F.findFirstOf s ⟨[59, 61], by decide⟩ nameStart)

/-- `while (offset < type_str.size())`, for a number of rounds at most. -/
def parameterLoop (F : Searches) (L : UnchangedLines) (s : StringPiece) :
    ℕ → ℕ → List Parameter → Except ParseFault (List Parameter)
  | 0, _, _ => .error .outOfRounds
  | rounds + 1, offset, params =>
    if offset < s.bytes.length then do
      let (param, next) ← parameterRound F L s offset
      parameterLoop F L s rounds next (params ++ param.toList)
    else .ok params

/-- `type_end`, set to the length when the search found no end of the type. -/
def typeEnd (F : Searches) (L : UnchangedLines) (s : StringPiece) (typeVal : ℕ) : ℕ :=
  let found := F.findFirstOf s (L.httpLws.append ⟨[59, 40], by decide⟩) typeVal
  if found = npos then s.bytes.length else found

/-- `ParseMimeType`: nothing when it returns false, otherwise the type and the parameters. -/
def parseMimeType (F : Searches) (L : UnchangedLines) (rounds : ℕ) (s : StringPiece) :
    Except ParseFault (Option (List UInt8 × List Parameter)) :=
  let typeVal := min (F.findFirstNotOf s L.httpLws 0) s.bytes.length
  let slashPos := F.findFirstOf s ⟨[47], by decide⟩ 0
  if slashPos = npos ∨ typeEnd F L s typeVal < slashPos then .ok none else
  (parameterLoop F L s rounds (F.findFirstOf s semicolon (typeEnd F L s typeVal)) []).map
    fun params => some (L.mimeType s typeVal (typeEnd F L s typeVal), params)

/-! ## The parameter loop ends -/

lemma qnxSearches_eq : qnxSearches = stdSearches := by
  have hof : qnxFindFirstOf = findFirstOf :=
    funext fun s => funext fun chars => funext fun start => qnxFindFirstOf_eq s chars start
  have hnotOf : qnxFindFirstNotOf = findFirstNotOf :=
    funext fun s => funext fun chars => funext fun start => qnxFindFirstNotOf_eq s chars start
  unfold qnxSearches stdSearches
  rw [hof, hnotOf]

/-- The offset at the head of the parameter loop: behind the string, or at a semicolon. -/
def AtSemicolon (s : StringPiece) (offset : ℕ) : Prop :=
  s.bytes.length ≤ offset ∨ s.bytes[offset]? = some 59

lemma atSemicolon_npos (s : StringPiece) : AtSemicolon s npos :=
  Or.inl (Nat.le_of_lt s.length_lt)

/-- The search for a semicolon leaves the offset as the loop wants it, not before its start. -/
lemma atSemicolon_findFirstOf (s : StringPiece) (pos : ℕ) :
    AtSemicolon s (findFirstOf s semicolon pos) ∧
      (findFirstOf s semicolon pos = npos ∨
        pos ≤ findFirstOf s semicolon pos) := by
  rcases findFirstOf_cases s semicolon pos with hnone | ⟨c, hc, hpos, hget⟩
  · rw [hnone]
    exact ⟨atSemicolon_npos s, Or.inl rfl⟩
  · have hsemi : c = 59 := List.mem_singleton.mp hc
    rw [hsemi] at hget
    exact ⟨Or.inr hget, Or.inr hpos⟩

lemma charAt_eq {s : StringPiece} {offset : ℕ} {c : UInt8} (h : s.bytes[offset]? = some c) :
    charAt s offset = .ok c := by
  rw [charAt, h]

/-- What a round must do: end without a fault, further on, and as the loop wants it. -/
def RoundEnds (s : StringPiece) (offset : ℕ)
    (result : Except ParseFault (Option Parameter × ℕ)) : Prop :=
  ∃ param next, result = .ok (param, next) ∧ AtSemicolon s next ∧ (next = npos ∨ offset < next)

lemma roundEnds_npos (s : StringPiece) (offset : ℕ) : RoundEnds s offset (.ok (none, npos)) :=
  ⟨none, npos, rfl, atSemicolon_npos s, Or.inl rfl⟩

/-- A round that ends with a search for a semicolon, from a position further on. -/
lemma roundEnds_findFirstOf {s : StringPiece} {offset pos : ℕ} (param : Option Parameter)
    (hpos : offset < pos) : RoundEnds s offset (.ok (param, findFirstOf s semicolon pos)) := by
  obtain ⟨hat, hnext⟩ := atSemicolon_findFirstOf s pos
  exact ⟨param, _, rfl, hat, hnext.imp_right fun h => Nat.lt_of_lt_of_le hpos h⟩

/-- Reading the value ends, with an offset behind the beginning of the round. -/
lemma parameterValue_ends (L : UnchangedLines) {s : StringPiece} (name : List UInt8)
    {offset valueStart : ℕ}
    (hstart : valueStart = npos ∨ offset < valueStart ∧ valueStart < s.bytes.length) :
    RoundEnds s offset (parameterValue stdSearches L s name valueStart) := by
  unfold parameterValue
  rcases hstart with hnone | ⟨hpos, hlt⟩
  · rw [if_pos hnone, hnone]
    exact roundEnds_npos s offset
  · have hne : valueStart ≠ npos := Nat.ne_of_lt (Nat.lt_trans hlt s.length_lt)
    have hget := List.getElem?_eq_getElem hlt
    rw [if_neg hne, charAt_eq hget]
    change RoundEnds s offset
      (if s.bytes[valueStart] = 59 then _ else if s.bytes[valueStart] ≠ 34 then _ else _)
    by_cases hsemi : s.bytes[valueStart] = 59
    · rw [if_pos hsemi]
      rw [hsemi] at hget
      exact ⟨none, valueStart, rfl, Or.inr hget, Or.inr hpos⟩
    · rw [if_neg hsemi]
      by_cases hquote : s.bytes[valueStart] ≠ 34
      · rw [if_pos hquote]
        exact roundEnds_findFirstOf _ hpos
      · obtain ⟨hquoted, -⟩ := L.quoted_next s valueStart hlt
        rw [if_neg hquote]
        exact roundEnds_findFirstOf _ (Nat.lt_trans hpos hquoted)

/-- So does the rest of the round from the end of the name. -/
lemma parameterFrom_ends (L : UnchangedLines) {s : StringPiece} (nameStart : ℕ) {offset nameEnd : ℕ}
    (hend : nameEnd = npos ∨ offset < nameEnd ∧ nameEnd < s.bytes.length) :
    RoundEnds s offset (parameterFrom stdSearches L s nameStart nameEnd) := by
  unfold parameterFrom
  rcases hend with hnone | ⟨hpos, hlt⟩
  · rw [if_pos hnone, hnone]
    exact roundEnds_npos s offset
  · have hne : nameEnd ≠ npos := Nat.ne_of_lt (Nat.lt_trans hlt s.length_lt)
    rw [if_neg hne, charAt_eq (List.getElem?_eq_getElem hlt)]
    change RoundEnds s offset (match L.parameterName s nameStart nameEnd with
      | none => _
      | some (name, next) => _)
    cases hname : L.parameterName s nameStart nameEnd with
    | none =>
      have hsemi := ((L.name_none s nameStart nameEnd).mp hname).resolve_left hne
      exact ⟨none, nameEnd, rfl, Or.inr hsemi, Or.inr hpos⟩
    | some named =>
      have hnext := L.name_next s nameStart nameEnd named.1 named.2 hname
      refine parameterValue_ends L named.1 ?_
      exact (findFirstNotOf_cases s L.httpLws named.2).imp_right fun ⟨c, hle, hget⟩ =>
        ⟨by change offset < findFirstNotOf s L.httpLws named.2; omega,
          (List.getElem?_eq_some_iff.mp hget).1⟩

/-- A round that starts at a semicolon ends further on, at a semicolon or behind the string. -/
lemma parameterRound_ends (L : UnchangedLines) {s : StringPiece} {offset : ℕ}
    (hat : s.bytes[offset]? = some 59) :
    RoundEnds s offset (parameterRound stdSearches L s offset) := by
  unfold parameterRound
  rw [charAt_eq hat]
  refine parameterFrom_ends L _ ?_
  change findFirstOf s _ (findFirstNotOf s L.httpLws (offset + 1)) = npos ∨ _
  have hlen := s.length_lt
  have hlt := (List.getElem?_eq_some_iff.mp hat).1
  have hnameStart : offset < findFirstNotOf s L.httpLws (offset + 1) := by
    rcases findFirstNotOf_cases s L.httpLws (offset + 1) with hnone | ⟨c, hpos, -⟩ <;> omega
  refine (findFirstOf_cases s _ _).imp_right fun ⟨c, _, hpos, hget⟩ => ?_
  exact ⟨Nat.lt_of_lt_of_le hnameStart hpos, (List.getElem?_eq_some_iff.mp hget).1⟩

/-- The loop ends without a fault when there are more rounds than characters left. -/
lemma parameterLoop_ends (L : UnchangedLines) {s : StringPiece} {rounds offset : ℕ}
    (params : List Parameter) (hat : AtSemicolon s offset)
    (hrounds : s.bytes.length - offset < rounds) :
    ∃ result, parameterLoop stdSearches L s rounds offset params = .ok result := by
  induction rounds generalizing offset params with
  | zero => exact absurd hrounds (Nat.not_lt_zero _)
  | succ rounds ih =>
    unfold parameterLoop
    by_cases hlt : offset < s.bytes.length
    · have hsemi := hat.resolve_left (Nat.not_le_of_lt hlt)
      obtain ⟨param, next, hround, hnextAt, hnext⟩ := parameterRound_ends L hsemi
      have hlen := s.length_lt
      rw [if_pos hlt, hround]
      exact ih (params ++ param.toList) hnextAt (by omega)
    · rw [if_neg hlt]
      exact ⟨params, rfl⟩

/-- With more rounds than characters, `ParseMimeType` ends without a fault. -/
lemma parseMimeType_ends (L : UnchangedLines) {s : StringPiece} {rounds : ℕ}
    (hrounds : s.bytes.length < rounds) :
    ∃ result, parseMimeType stdSearches L rounds s = .ok result := by
  unfold parseMimeType
  dsimp only
  generalize min (stdSearches.findFirstNotOf s L.httpLws 0) s.bytes.length = typeVal
  generalize stdSearches.findFirstOf s ⟨[47], by decide⟩ 0 = slashPos
  by_cases hreject : slashPos = npos ∨ typeEnd stdSearches L s typeVal < slashPos
  · rw [if_pos hreject]
    exact ⟨none, rfl⟩
  · obtain ⟨hat, -⟩ := atSemicolon_findFirstOf s (typeEnd stdSearches L s typeVal)
    obtain ⟨params, hparams⟩ := parameterLoop_ends L [] hat
      (Nat.lt_of_le_of_lt (Nat.sub_le s.bytes.length _) hrounds)
    rw [if_neg hreject]
    change ∃ result, Except.map _ (parameterLoop stdSearches L s rounds
      (findFirstOf s semicolon (typeEnd stdSearches L s typeVal)) []) = .ok result
    rw [hparams]
    exact ⟨_, rfl⟩

/-- **The search loops do what they replace.**  Each loop returns what the string search returns,
for every string, set and start.  `ParseMimeType` therefore ends the same in both versions, after
the same number of rounds of its parameter loop, and with enough rounds it ends without a fault. -/
theorem qnxSearches_replace :
    (∀ s chars start, qnxFindFirstOf s chars start = findFirstOf s chars start) ∧
    (∀ s chars start, qnxFindFirstNotOf s chars start = findFirstNotOf s chars start) ∧
    (∀ s chars, httpUtilQnxFindFirstOf s chars = findFirstOf s chars 0) ∧
    (∀ s target, qnxFindChar s target = findChar s target) ∧
    (∀ s, qnxFindStatusLineEnd s = findStatusLineEnd s) ∧
    ∀ (L : UnchangedLines) (s : StringPiece),
      (∀ rounds, parseMimeType qnxSearches L rounds s = parseMimeType stdSearches L rounds s) ∧
      ∃ bound, ∀ rounds ≥ bound, ∃ result, parseMimeType qnxSearches L rounds s = .ok result := by
  refine ⟨qnxFindFirstOf_eq, qnxFindFirstNotOf_eq, httpUtilQnxFindFirstOf_eq, qnxFindChar_eq,
    qnxFindStatusLineEnd_eq, fun L s => ⟨fun rounds => by rw [qnxSearches_eq], ?_⟩⟩
  refine ⟨s.bytes.length + 1, fun rounds hrounds => ?_⟩
  rw [qnxSearches_eq]
  exact parseMimeType_ends L hrounds

/-- Unchanged lines for strings without a backslash: a quoted value ends at the next quote. -/
def UnchangedLines.plain : UnchangedLines where
  httpLws := ⟨[32, 9], by decide⟩
  mimeType s first last := (s.bytes.take last).drop first
  parameterName s first offset :=
    if offset = npos ∨ s.bytes[offset]? = some 59 then none
    else some ((s.bytes.take offset).drop first, offset + 1)
  unquotedValue s first last := ((s.bytes.take last).drop first).rdropWhile fun c => c = 32 ∨ c = 9
  quotedValue s offset :=
    let close := firstFrom s.bytes.length (fun c => decide (c = 34)) s.bytes (offset + 1)
    ((s.bytes.take close).drop (offset + 1), close)
  name_none s first offset := by
    by_cases hend : offset = npos ∨ s.bytes[offset]? = some 59
    · exact iff_of_true (if_pos hend) hend
    · rw [if_neg hend]
      exact iff_of_false (Option.some_ne_none _) hend
  name_next s first offset name next h := by
    obtain ⟨-, hsome⟩ := (Option.ite_none_left_eq_some).mp h
    exact (congrArg Prod.snd (Option.some.inj hsome)).symm
  quoted_next s offset hlt := by
    dsimp only
    rcases firstFrom_cases (fun c => decide (c = 34)) s.bytes (offset + 1) with
      hnone | ⟨i, hi, hpos, -, hfound⟩
    · rw [hnone]
      exact ⟨hlt, Nat.le_refl _⟩
    · rw [hfound]
      exact ⟨hpos, Nat.le_of_lt hi⟩

/-- On QNX the type `a/b;c="d"` has one parameter. -/
theorem qnxSearches_replace_quoted :
    parseMimeType qnxSearches .plain 2 ⟨[97, 47, 98, 59, 99, 61, 34, 100, 34], by decide⟩ =
      .ok (some ([97, 47, 98], [([99], [100])])) := by
  obtain ⟨-, -, -, -, -, hparse⟩ := qnxSearches_replace
  rw [(hparse .plain _).1]
  rfl

end ChromiumQnx
