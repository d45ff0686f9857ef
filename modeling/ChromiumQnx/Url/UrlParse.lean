import ChromiumQnx.Foundation.StringSearch
import Mathlib.Data.List.TakeWhile
import Mathlib.Tactic.Common

/-!
# Splitting a URL after its authority

`DoParseAfterScheme` hands everything after the authority to `ParsePath`, which splits it at the
first `#` and at the first `?` before that into path, query and ref.  The QNX branch bypasses
`ParsePath` whenever there is something to split and stores the whole range as the path.

`pathParts` says what the three components are, `PathParser` stands for the upstream function, and
the main result tells for which texts the QNX branch stores what `ParsePath` yields.
-/

namespace ChromiumQnx

namespace UrlParse

open StringSearch (takeWhile_ne_eq_self)

/-! ## Components -/

/-- `url::Component`: a range of the spec; a length of -1 marks an unset component. -/
structure Component where
  begin : ℤ
  len : ℤ
  deriving DecidableEq, Repr

/-- `Component()`, which `reset()` restores. -/
def Component.unset : Component := ⟨0, -1⟩

/-- `Component::is_valid`. -/
def Component.isValid (c : Component) : Bool := c.len ≠ -1

/-- The three components a parsed URL has after its authority. -/
structure PathParts where
  path : Component
  query : Component
  ref : Component
  deriving DecidableEq, Repr

/-- The code units of `?` and `#`. -/
def question : ℕ := 63

@[inherit_doc question] def hash : ℕ := 35

/-- The text before the first `#`. -/
def beforeHash (text : List ℕ) : List ℕ := text.takeWhile (· ≠ hash)

/-- The text before the first `?` or `#`. -/
def beforeQuestion (text : List ℕ) : List ℕ := (beforeHash text).takeWhile (· ≠ question)

/-- The components of a text that starts at position `start` of the spec: the ref follows the first
`#`, the query follows the first `?` lying before that, and the path is what comes before both.
Absent components and an empty path are unset. -/
def pathParts (start : ℕ) (text : List ℕ) : PathParts where
  path :=
    if (beforeQuestion text).length = 0 then .unset
    else ⟨start, (beforeQuestion text).length⟩
  query :=
    if (beforeQuestion text).length < (beforeHash text).length then
      ⟨start + (beforeQuestion text).length + 1,
        (beforeHash text).length - (beforeQuestion text).length - 1⟩
    else .unset
  ref :=
    if (beforeHash text).length < text.length then
      ⟨start + (beforeHash text).length + 1, text.length - (beforeHash text).length - 1⟩
    else .unset

/-- `ParsePath` as `DoParseAfterScheme` uses it: on an unset range it resets all three components,
and on the range from a position to the end of the spec it stores the components of that text. -/
structure PathParser where
  parsePath : List ℕ → Component → PathParts
  parsePath_unset : ∀ spec, parsePath spec .unset = ⟨.unset, .unset, .unset⟩
  parsePath_range : ∀ spec (start : ℕ), start < spec.length →
    parsePath spec ⟨start, spec.length - start⟩ = pathParts start (spec.drop start)

/-! ## The QNX branch -/

/-- `full_path`: everything from the end of the authority to the end of the spec. -/
def fullPath (spec : List ℕ) (endAuth : Fin (spec.length + 1)) : Component :=
  if (endAuth : ℕ) = spec.length then .unset
  else ⟨(endAuth : ℕ), spec.length - (endAuth : ℕ)⟩

/-- The path, query and ref that the QNX branch of `DoParseAfterScheme` stores. -/
def doParseAfterScheme (parser : PathParser) (spec : List ℕ) (endAuth : Fin (spec.length + 1)) :
    PathParts :=
  let full := fullPath spec endAuth
  if full.isValid ∧ 0 < full.len then
    { path := full, query := .unset, ref := .unset }
  else parser.parsePath spec full

/-- The path, query and ref that the other platforms store. -/
def doParseAfterSchemeUpstream (parser : PathParser) (spec : List ℕ)
    (endAuth : Fin (spec.length + 1)) : PathParts :=
  parser.parsePath spec (fullPath spec endAuth)

/-! ## When the two agree -/

/-- The part before the first character of a kind is shorter than the text exactly when there is
one. -/
lemma length_takeWhile_lt_iff {text : List ℕ} {c : ℕ} :
    (text.takeWhile (· ≠ c)).length < text.length ↔ c ∈ text := by
  have hprefix : text.takeWhile (· ≠ c) <+: text := List.takeWhile_prefix _
  constructor
  · intro hlt
    by_contra hc
    rw [takeWhile_ne_eq_self hc] at hlt
    exact Nat.lt_irrefl _ hlt
  · intro hc
    refine lt_of_le_of_ne hprefix.length_le fun hlen => ?_
    have hself := hprefix.eq_of_length hlen
    exact absurd rfl (of_decide_eq_true (List.takeWhile_eq_self_iff.mp hself c hc))

/-- A text without `?` and `#` is all path. -/
lemma pathParts_of_notMem {start : ℕ} {text : List ℕ} (hne : text ≠ []) (hq : question ∉ text)
    (hh : hash ∉ text) :
    pathParts start text = ⟨⟨start, text.length⟩, .unset, .unset⟩ := by
  have hhash : beforeHash text = text := takeWhile_ne_eq_self hh
  have hquestion : beforeQuestion text = text := by
    rw [beforeQuestion, hhash]
    exact takeWhile_ne_eq_self hq
  simp [pathParts, hhash, hquestion, hne]

/-- The components of a text with a `#` include a ref, and those of a text with a `?` a query or a
ref. -/
lemma notMem_of_pathParts {start : ℕ} {text : List ℕ} {path : Component}
    (h : pathParts start text = ⟨path, .unset, .unset⟩) : question ∉ text ∧ hash ∉ text := by
  have hquery : (pathParts start text).query = .unset := by rw [h]
  have href : (pathParts start text).ref = .unset := by rw [h]
  have hhash : hash ∉ text := by
    intro hmem
    have hlt : (beforeHash text).length < text.length := length_takeWhile_lt_iff.mpr hmem
    have hlen := congrArg Component.len href
    simp only [pathParts, if_pos hlt, Component.unset] at hlen
    omega
  have hself : beforeHash text = text := takeWhile_ne_eq_self hhash
  refine ⟨fun hmem => ?_, hhash⟩
  have hlt : (beforeQuestion text).length < (beforeHash text).length := by
    rw [beforeQuestion, hself]
    exact length_takeWhile_lt_iff.mpr hmem
  have hlen := congrArg Component.len hquery
  simp only [pathParts, if_pos hlt, Component.unset] at hlen
  omega

/-- **Exactness of the QNX branch.**  For every spec and every end of its authority, the stored
path, query and ref are those `ParsePath` yields if and only if no `?` and no `#` follows the
authority. -/
theorem doParseAfterScheme_eq_upstream_iff (parser : PathParser) (spec : List ℕ)
    (endAuth : Fin (spec.length + 1)) :
    doParseAfterScheme parser spec endAuth = doParseAfterSchemeUpstream parser spec endAuth ↔
      question ∉ spec.drop endAuth ∧ hash ∉ spec.drop endAuth := by
  unfold doParseAfterScheme doParseAfterSchemeUpstream fullPath
  dsimp only
  by_cases hend : (endAuth : ℕ) = spec.length
  · rw [if_pos hend, if_neg (by decide), hend, List.drop_length]
    simp
  · have hlt : (endAuth : ℕ) < spec.length := by
      have := endAuth.isLt
      omega
    have hlen : ((spec.drop endAuth).length : ℤ) = spec.length - (endAuth : ℕ) := by
      rw [List.length_drop]
      omega
    have hvalid : Component.isValid ⟨(endAuth : ℕ), spec.length - (endAuth : ℕ)⟩ = true ∧
        0 < (spec.length : ℤ) - (endAuth : ℕ) := by
      refine ⟨decide_eq_true ?_, by omega⟩
      change (spec.length : ℤ) - (endAuth : ℕ) ≠ -1
      omega
    rw [if_neg hend, if_pos hvalid, parser.parsePath_range spec endAuth hlt]
    constructor
    · intro h
      exact notMem_of_pathParts h.symm
    · rintro ⟨hq, hh⟩
      have hne : spec.drop endAuth ≠ [] := by
        intro hnil
        rw [List.drop_eq_nil_iff] at hnil
        omega
      rw [pathParts_of_notMem hne hq hh, hlen]

/-- A parser that does nothing but split. -/
def PathParser.split : PathParser where
  parsePath spec c :=
    if c.isValid then pathParts c.begin.toNat (spec.drop c.begin.toNat)
    else ⟨.unset, .unset, .unset⟩
  parsePath_unset spec := rfl
  parsePath_range spec start h := by
    have hvalid : Component.isValid ⟨start, spec.length - start⟩ = true := by
      apply decide_eq_true
      change (spec.length : ℤ) - start ≠ -1
      omega
    rw [if_pos hvalid]
    rfl

/-- `http://h/a?b#c`. -/
def queryAndRefSpec : List ℕ := [104, 116, 116, 112, 58, 47, 47, 104, 47, 97, 63, 98, 35, 99]

/-- The authority of `http://h/a?b#c` ends at position 8: the query and the ref are lost, and the
path contains them. -/
theorem queryAndRef_not_eq_upstream :
    doParseAfterScheme PathParser.split queryAndRefSpec 8 ≠
      doParseAfterSchemeUpstream PathParser.split queryAndRefSpec 8 := by
  decide

end UrlParse

end ChromiumQnx
