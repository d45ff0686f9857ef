import ChromiumQnx.Blink.HTMLDocumentParser

/-!
# The doctype in its context

`HTMLDocumentParser::Append` searches the raw characters of a chunk for `<!doctype`, without knowing
whether the tokenizer is in text, in a script, in a comment or in an attribute value.
`TokenizerContext` stands for the tokenizer as far as this matters: for the state it is in when a
chunk begins it tells at which places of the chunk a DOCTYPE declaration starts.

The text handed over differs from the chunk in the keyword of declarations only, exactly when the
first place where the keyword stands is the start of a declaration or reads `<!DOCTYPE` already.
-/

namespace ChromiumQnx

/-- Where the tokenizer sees DOCTYPE declarations start in a chunk, given its state at the chunk's
beginning.  A declaration starts with the keyword in some letter case. -/
structure TokenizerContext (σ : Type*) where
  doctypeAt : σ → List UInt16 → ℕ → Prop
  occursAt : ∀ state chunk i, doctypeAt state chunk i → doctype.OccursAt chunk i

/-- The text handed over has the length of the chunk, differs from it in the case of letters only,
and not at all outside the keywords of DOCTYPE declarations. -/
def OnlyDoctypesChanged {σ : Type*} (tokenizer : TokenizerContext σ) (state : σ)
    (chunk : List UInt16) : Prop :=
  doctype.ChangedOnlyAt (tokenizer.doctypeAt state chunk) chunk (qnxSource chunk)

/-- **Exactness of the rewriting in context.**  For every tokenizer, every state and every chunk,
`Append` changes nothing but the letter case of the keyword of DOCTYPE declarations, if and only if
the first place of the chunk where the keyword stands starts a declaration or reads `<!DOCTYPE`. -/
theorem onlyDoctypesChanged_iff {σ : Type*} (tokenizer : TokenizerContext σ) (state : σ)
    (chunk : List UInt16) :
    OnlyDoctypesChanged tokenizer state chunk ↔
      ∀ i, doctype.IsFirst chunk i → tokenizer.doctypeAt state chunk i ∨
        doctype.ExactAt chunk i := by
  rw [OnlyDoctypesChanged, qnxSource_eq]
  exact Keyword.changedOnlyAt_rewriteFirst_iff (tokenizer.occursAt state chunk)

/-- The state of the tokenizer at the start of a document or inside a script. -/
inductive TokenizerState
  | data
  | scriptData
  deriving DecidableEq, Repr

/-- A tokenizer that sees a declaration at the first place of a document, and none in a script. -/
def leadingDoctype : TokenizerContext TokenizerState where
  doctypeAt state chunk i := state = .data ∧ i = 0 ∧ doctype.OccursAt chunk 0
  occursAt _ _ _ h := h.2.1 ▸ h.2.2

/-- The chunk `"<!doctype` inside a script: the string literal the page compares with is changed. -/
theorem scriptString_not_onlyDoctypesChanged :
    ¬ OnlyDoctypesChanged leadingDoctype .scriptData (34 :: lowerDoctype) := by
  intro h
  have hunchanged := h.off 3 fun i hi => absurd hi.1 (by decide)
  exact absurd hunchanged (by decide)

end ChromiumQnx
