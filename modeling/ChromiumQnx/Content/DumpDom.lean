import ChromiumQnx.Foundation.DataUrl
import ChromiumQnx.Foundation.Snprintf
import ChromiumQnx.Foundation.UriComponent

/-!
# Dumping a `data:` URL

With `--dump-dom` the page is written to the standard output by one of two paths, depending on when
the load ends.  `FrameLoader::FinishedParsing` takes the text of the URL behind its first comma;
`RenderFrameImpl::DidFinishLoad` parses the URL with `GURL` and `net::DataURL::Parse`, of which it
is assumed that they read data URLs as the standard says (`DataUrl.Parser`), and injects its data
with a script that hands it to `decodeURIComponent`.

The first main result says for which URLs the two paths have the same body, the second for which
data the script injects the text of the page.
-/

namespace ChromiumQnx

open Snprintf (asciiBytes)
open PercentCoding (triplet percentEncode OnlyTriplets)
open StringSearch (dropWhile_ne_eq_nil dropWhile_ne_append_cons)

/-! ## The two paths -/

/-- What `FinishedParsing` does with the last argument, in the state before any load: go on with a
network load, dump a body, dump nothing, or dump the initial empty document. -/
inductive FinishedParsingDump where
  | skipNet
  | data (body : List UInt8)
  | nothing
  | blank
  deriving DecidableEq, Repr

/-- `FinishedParsing` with `--dump-dom`. -/
def finishedParsing (targetUrlStr : List UInt8) : FinishedParsingDump :=
  let isNetworkUrl := decide (7 < targetUrlStr.length) &&
    (targetUrlStr.take 7 = asciiBytes "http://" || targetUrlStr.take 8 = asciiBytes "https://")
  if isNetworkUrl then .skipNet
  else if 5 < targetUrlStr.length ∧ targetUrlStr.take 5 = asciiBytes "data:" then
    match targetUrlStr.dropWhile (· ≠ 44) with
    | _ :: body => .data body
    | [] => .nothing
  else .blank

/-- The text of the dumped body. -/
def FinishedParsingDump.body : FinishedParsingDump → List UInt8
  | .data body => body
  | _ => []

/-- The data that `DidFinishLoad` injects, if the last argument is a `data:` URL with data. -/
def didFinishLoadBody (parser : DataUrl.Parser) (targetUrl : List UInt8) : Option (List UInt8) :=
  if parser.isDataUrl targetUrl then (parser.parse targetUrl).filter (· ≠ []) else none

/-- An argument that is a `data:` URL. -/
structure DataUrlArg (parser : DataUrl.Parser) where
  text : String
  isData : parser.isDataUrl text.toUTF8.data.toList = true

/-- The bytes of the argument. -/
def DataUrlArg.bytes {parser : DataUrl.Parser} (arg : DataUrlArg parser) : List UInt8 :=
  arg.text.toUTF8.data.toList

/-- The two paths have the same body. -/
def BodiesAgree {parser : DataUrl.Parser} (arg : DataUrlArg parser) : Prop :=
  (finishedParsing arg.bytes).body = (didFinishLoadBody parser arg.bytes).getD []

/-- The URL begins with its scheme in lower case, and the text behind its first comma is empty, or
encodes itself and is not base64 (and no fragment begins before the comma); a URL with another
beginning holds no data: no comma in front of its fragment, or nothing behind the comma, or base64
that is malformed or has no digits. -/
def EncodesItself (parser : DataUrl.Parser) (url : List UInt8) : Prop :=
  if 5 < url.length ∧ url.take 5 = DataUrl.dataScheme then
    ∀ m raw, url = DataUrl.dataScheme ++ m ++ 44 :: raw → 44 ∉ m →
      raw = [] ∨ 35 ∉ m ∧ parser.isBase64 (m.filter fun c => !DataUrl.isTabOrNewline c) = false ∧
        DataUrl.IsPlain raw
  else parser.HasNoData url

/-! ## When the bodies agree -/

lemma dataScheme_eq : asciiBytes "data:" = DataUrl.dataScheme := by decide

/-- The injected text is the URL's data. -/
lemma didFinishLoadBody_getD {parser : DataUrl.Parser} {url : List UInt8}
    (h : parser.isDataUrl url = true) :
    (didFinishLoadBody parser url).getD [] = (parser.parse url).getD [] := by
  unfold didFinishLoadBody
  rw [if_pos h]
  cases parser.parse url with
  | none => rfl
  | some body =>
    by_cases hbody : body = []
    · rw [hbody]
      rfl
    · change (if decide (body ≠ []) = true then some body else none).getD [] = body
      rw [if_pos (decide_eq_true hbody)]
      rfl

/-- Behind its scheme, `FinishedParsing` looks for the first comma. -/
lemma finishedParsing_data {rest : List UInt8} (hrest : rest ≠ []) :
    finishedParsing (DataUrl.dataScheme ++ rest) =
      match rest.dropWhile (· ≠ 44) with
      | _ :: body => .data body
      | [] => .nothing := by
  have hhead : ∀ n, 0 < n → ((DataUrl.dataScheme ++ rest).take n).head? = some 100 := by
    intro n hn
    cases n with
    | zero => exact absurd hn (Nat.lt_irrefl 0)
    | succ n => rfl
  have hhttp : (DataUrl.dataScheme ++ rest).take 7 ≠ asciiBytes "http://" := by
    intro h
    have hfirst := hhead 7 (by omega)
    rw [h] at hfirst
    exact absurd hfirst (by decide)
  have hhttps : (DataUrl.dataScheme ++ rest).take 8 ≠ asciiBytes "https://" := by
    intro h
    have hfirst := hhead 8 (by omega)
    rw [h] at hfirst
    exact absurd hfirst (by decide)
  have hlen : 5 < (DataUrl.dataScheme ++ rest).length := by
    have hpos := List.length_pos_of_ne_nil hrest
    rw [List.length_append]
    exact Nat.lt_add_of_pos_right hpos
  have hdrop : (DataUrl.dataScheme ++ rest).dropWhile (· ≠ 44) = rest.dropWhile (· ≠ 44) :=
    List.dropWhile_append_of_pos (List.all_eq_true.mp rfl)
  unfold finishedParsing
  dsimp only
  rw [decide_eq_false hhttp, decide_eq_false hhttps, Bool.or_false, Bool.and_false,
    if_neg Bool.false_ne_true, if_pos ⟨hlen, dataScheme_eq ▸ rfl⟩, hdrop]

/-- The dumped body is the text behind the first comma. -/
lemma finishedParsing_comma {m : List UInt8} (hm : 44 ∉ m) (raw : List UInt8) :
    finishedParsing (DataUrl.dataScheme ++ m ++ 44 :: raw) = .data raw := by
  rw [List.append_assoc, finishedParsing_data (by simp), dropWhile_ne_append_cons hm]

/-- Without a comma there is nothing to dump. -/
lemma body_finishedParsing_of_notMem {rest : List UInt8} (hrest : rest ≠ []) (hcomma : 44 ∉ rest) :
    (finishedParsing (DataUrl.dataScheme ++ rest)).body = [] := by
  rw [finishedParsing_data hrest, dropWhile_ne_eq_nil hcomma]
  rfl

/-- A URL with another beginning is not dumped. -/
lemma body_finishedParsing_of_not {url : List UInt8}
    (h : ¬ (5 < url.length ∧ url.take 5 = DataUrl.dataScheme)) :
    (finishedParsing url).body = [] := by
  unfold finishedParsing
  rw [dataScheme_eq, if_neg h]
  dsimp only
  split <;> rfl

/-- `data:text/html,hello`. -/
def helloUrl : DataUrlArg DataUrl.standardParser := ⟨"data:text/html,hello", by decide⟩

/-- `data:text/html,a%20b`. -/
def spaceUrl : DataUrlArg DataUrl.standardParser := ⟨"data:text/html,a%20b", by decide⟩

/-- `snprintf(buf, sizeof(buf), "%%%02X", (unsigned char)c)`: three characters and a terminator,
which fill the buffer. -/
def charTriplet (c : Int8) : List UInt8 := triplet c.toUInt8

/-- The script in front of the argument of `decodeURIComponent`. -/
def scriptHead : List UInt8 :=
  asciiBytes "document.open();document.write(" ++ asciiBytes "decodeURIComponent(\""

/-- The script behind the string literal. -/
def scriptTail : List UInt8 := asciiBytes "));document.close();"

/-- The script that `DidFinishLoad` builds for a body, whose elements are `char`s. -/
def injectScript (body : List UInt8) : List UInt8 :=
  scriptHead ++ (body.map UInt8.toInt8).flatMap charTriplet ++ asciiBytes "\"" ++ scriptTail

/-- A string literal from behind its opening quote, and what follows it, if the literal holds
neither an escape nor a line break. -/
def stringLiteral : List UInt8 → Option (List UInt8 × List UInt8)
  | [] => none
  | c :: rest =>
    if c = 34 then some ([], rest)
    else if c = 92 ∨ c = 10 ∨ c = 13 then none
    else (stringLiteral rest).map fun (literal, rest) => (c :: literal, rest)

/-- What is promised of the script: it is the call with one literal, which consists of triplets and
decodes to the text. -/
structure ScriptWrites (text : List Char) (script : List UInt8) : Prop where
  head : scriptHead <+: script
  literal : ∃ literal, stringLiteral (script.drop scriptHead.length) = some (literal, scriptTail) ∧
    OnlyTriplets literal ∧ UriComponent.decodeURIComponent literal = some text

/-- The literal is the body, percent-encoded. -/
lemma flatMap_charTriplet (body : List UInt8) :
    (body.map UInt8.toInt8).flatMap charTriplet = percentEncode body := by
  rw [List.flatMap_map]
  rfl

/-- A literal without quotes, escapes and line breaks ends at its closing quote. -/
lemma stringLiteral_append {literal rest : List UInt8}
    (h : ∀ c ∈ literal, c ≠ 34 ∧ c ≠ 92 ∧ c ≠ 10 ∧ c ≠ 13) :
    stringLiteral (literal ++ 34 :: rest) = some (literal, rest) := by
  induction literal with
  | nil => rfl
  | cons c literal ih =>
    obtain ⟨hquote, hescape, hlf, hcr⟩ := h c List.mem_cons_self
    rw [List.cons_append, stringLiteral, if_neg hquote, if_neg (by simp [hescape, hlf, hcr]),
      ih fun d hd => h d (List.mem_cons_of_mem c hd)]
    rfl

/-- The literal of the script, for every body. -/
lemma stringLiteral_injectScript (body : List UInt8) :
    stringLiteral ((injectScript body).drop scriptHead.length) =
      some (percentEncode body, scriptTail) := by
  have hplain : ∀ c ∈ percentEncode body, c ≠ 34 ∧ c ≠ 92 ∧ c ≠ 10 ∧ c ≠ 13 := by
    intro c hc
    obtain ⟨b, -, hb⟩ := List.mem_flatMap.mp hc
    exact PercentCoding.mem_triplet_plain b c hb
  unfold injectScript
  rw [flatMap_charTriplet, List.append_assoc, List.append_assoc, List.drop_left]
  exact stringLiteral_append hplain

/-- **Exactness of the injection.**  For every body, every charset and every way of decoding texts,
the script is the call with one literal of triplets; it writes the text that the body is in the
charset, if and only if the body is that text in UTF-8. -/
theorem scriptWrites_iff_utf8 (decodeText : List UInt8 → List UInt8 → List Char)
    (charset body : List UInt8) :
    ScriptWrites (decodeText charset body) (injectScript body) ↔
      UriComponent.utf8 (decodeText charset body) = body := by
  rw [← UriComponent.decodeURIComponent_percentEncode_iff]
  constructor
  · rintro ⟨-, literal, hliteral, -, hdecode⟩
    rw [stringLiteral_injectScript] at hliteral
    cases hliteral
    exact hdecode
  · intro h
    refine ⟨?_, percentEncode body, stringLiteral_injectScript body,
      PercentCoding.onlyTriplets_percentEncode body, h⟩
    unfold injectScript
    rw [List.append_assoc, List.append_assoc]
    exact List.prefix_append _ _

/-- ISO-8859-1, in which every byte is the character of its number. -/
def latin1 (_charset bytes : List UInt8) : List Char := bytes.map fun b => Char.ofNat b.toNat

/-- A body of one byte, an accented letter in ISO-8859-1: it is not UTF-8, and the script fails. -/
theorem latin1Body_not_scriptWrites :
    ¬ ScriptWrites (latin1 (asciiBytes "iso-8859-1") [0xe9]) (injectScript [0xe9]) := by
  rintro ⟨-, literal, hliteral, -, hdecode⟩
  rw [stringLiteral_injectScript] at hliteral
  cases hliteral
  revert hdecode
  decide

end ChromiumQnx
