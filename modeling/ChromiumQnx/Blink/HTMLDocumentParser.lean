import ChromiumQnx.Foundation.KeywordRewrite

/-!
# The doctype in `HTMLDocumentParser::Append`

The tokenizer crashes on QNX on `<!doctype` in some letter cases, so `Append` replaces the keyword
by `<!DOCTYPE` before it hands a chunk of the document over.  It looks at one chunk at a time,
leaves chunks of less than nine characters alone and replaces one occurrence.

`qnxSource` is the text handed over for one chunk.  It is the rewriting of the first occurrence of a
keyword (`qnxSource_eq`), so `Keyword.chunkwise_iff` says for which ways of splitting a document the
tokenizer gets what it gets for the whole document, with no other letter case left.
-/

namespace ChromiumQnx

/-! ## Strings -/

/-- The code units of a literal. -/
def codeUnits (s : List Char) : List UInt16 := s.map fun c => c.toNat.toUInt16

/-- `"<!doctype"`. -/
def lowerDoctype : List UInt16 := codeUnits ['<', '!', 'd', 'o', 'c', 't', 'y', 'p', 'e']

/-- `"<!DOCTYPE"`. -/
def upperDoctype : List UInt16 := codeUnits ['<', '!', 'D', 'O', 'C', 'T', 'Y', 'P', 'E']

/-- `ToASCIILower`. -/
def toASCIILower (c : UInt16) : UInt16 := if 65 ≤ c ∧ c ≤ 90 then c + 32 else c

/-- Whether `pattern` stands at a place of a string, in any letter case. -/
def matchesIgnoringASCIICase (source pattern : List UInt16) (i : ℕ) : Bool :=
  ((source.drop i).take pattern.length).map toASCIILower = pattern.map toASCIILower

/-- `String::FindIgnoringASCIICase`. -/
def findIgnoringASCIICase (source pattern : List UInt16) : Option ℕ :=
  (List.range source.length).find? (matchesIgnoringASCIICase source pattern)

/-! ## `Append` -/

/-- The text `Append` hands to the tokenizer for a chunk. -/
def qnxSource (inputSource : List UInt16) : List UInt16 :=
  if 9 ≤ inputSource.length then
    match findIgnoringASCIICase inputSource lowerDoctype with
    | some pos =>
      inputSource.take pos ++ upperDoctype ++ inputSource.drop (pos + 9)
    | none => inputSource
  else inputSource

/-- What the tokenizer gets when a document is appended chunk by chunk. -/
def tokenizerInput (chunks : List (List UInt16)) : List UInt16 := (chunks.map qnxSource).flatten

/-- The keyword with its normal form. -/
def doctype : Keyword UInt16 UInt16 where
  fold := toASCIILower
  key := upperDoctype
  key_ne_nil := by decide
  head_unique := by decide

/-- The keyword stands at a place in some letter case. -/
lemma matchesIgnoringASCIICase_iff (source : List UInt16) (i : ℕ) :
    matchesIgnoringASCIICase source lowerDoctype i ↔ doctype.OccursAt source i := by
  have hlower : lowerDoctype.map toASCIILower = doctype.key.map doctype.fold := by decide
  rw [matchesIgnoringASCIICase, decide_eq_true_iff, Keyword.occursAt_iff_map_eq, hlower]
  exact Iff.rfl

/-- The search of `Append` finds the first occurrence. -/
lemma findIgnoringASCIICase_eq (source : List UInt16) :
    findIgnoringASCIICase source lowerDoctype = doctype.firstOccurrence? source := by
  have hpred : matchesIgnoringASCIICase source lowerDoctype =
      fun i => decide (doctype.OccursAt source i) := by
    funext i
    rw [Bool.eq_iff_iff, matchesIgnoringASCIICase_iff, decide_eq_true_iff]
  rw [findIgnoringASCIICase, hpred, Keyword.firstOccurrence?]

/-- **`Append` rewrites the first occurrence.**  Short chunks have none. -/
lemma qnxSource_eq (inputSource : List UInt16) :
    qnxSource inputSource = doctype.rewriteFirst inputSource := by
  rw [qnxSource, Keyword.rewriteFirst, findIgnoringASCIICase_eq]
  split_ifs with hlength
  · cases doctype.firstOccurrence? inputSource <;> rfl
  · have hnone : doctype.firstOccurrence? inputSource = none := by
      refine Keyword.firstOccurrence?_eq_none_iff.mpr fun i hi => hlength ?_
      have hle : i + 9 ≤ inputSource.length := hi.add_length_le
      omega
    rw [hnone]

/-! ## Splitting a document -/

/-- The tokenizer gets the same text as for the whole document, and in it the keyword stands in
capital letters wherever it stands. -/
def DoctypesNormalized (chunks : List (List UInt16)) : Prop :=
  tokenizerInput chunks = qnxSource chunks.flatten ∧
    ∀ i, doctype.OccursAt (tokenizerInput chunks) i → doctype.ExactAt (tokenizerInput chunks) i

/-- The condition on a document and its splitting: every occurrence of the keyword in other than
capital letters is the first occurrence in the document and lies inside a chunk. -/
def DoctypesSafe (chunks : List (List UInt16)) : Prop :=
  ∀ i, doctype.OccursAt chunks.flatten i → doctype.ExactAt chunks.flatten i ∨
    doctype.IsFirst chunks.flatten i ∧ doctype.InsideChunk chunks i

/-- **The doctype of a document in chunks.**  The keyword is normalized independently of the
splitting if and only if the document and its splitting are safe. -/
theorem doctypesNormalized_iff (chunks : List (List UInt16)) :
    DoctypesNormalized chunks ↔ DoctypesSafe chunks := by
  rw [DoctypesSafe, ← Keyword.chunkwise_iff]
  have hparts : tokenizerInput chunks = (chunks.map doctype.rewriteFirst).flatten := by
    rw [tokenizerInput, List.map_congr_left fun c _ => qnxSource_eq c]
  rw [DoctypesNormalized, hparts, qnxSource_eq]
  exact and_congr_right fun heq => by rw [heq]

/-- A keyword that is split over two chunks is handed over as it is. -/
theorem splitDoctype_not_normalized :
    ¬ ∀ chunks : List (List UInt16), DoctypesNormalized chunks := by
  intro h
  have hsplit := (h [lowerDoctype.take 5, lowerDoctype.drop 5]).1
  exact absurd hsplit (by decide)

end ChromiumQnx
