import ODataRequest.Clause.Options
import ODataRequest.Proofs.Evaluation
namespace ODataRequest

namespace Text

/-- Reads the inside of a phrase up to the quote that closes it, and returns what follows. -/
def readEscaped : List Char → Option (List Char × List Char)
  | [] | ['\\'] => none
  | '"' :: rest => some ([], rest)
  | '\\' :: char :: rest => (readEscaped rest).map fun (inside, after) => (char :: inside, after)
  | char :: rest => (readEscaped rest).map fun (inside, after) => (char :: inside, after)

def readPhrase : List Char → Option (String × List Char)
  | '"' :: rest => (readEscaped rest).map fun (inside, after) => (String.ofList inside, after)
  | _ => none

theorem readEscaped_cons {char : Char} (slash : char ≠ '\\') (quote : char ≠ '"')
    (rest : List Char) :
    readEscaped (char :: rest) =
      (readEscaped rest).map fun (inside, after) => (char :: inside, after) := by
  rw [readEscaped]
  all_goals grind

theorem readEscaped_escapePhrase (chars rest : List Char) :
    readEscaped (escapePhrase chars ++ '"' :: rest) = some (chars, rest) := by
  fun_induction escapePhrase chars with
  | case1 => simp [readEscaped]
  | case2 chars ih => simp [readEscaped, ih]
  | case3 chars ih => simp [readEscaped, ih]
  | case4 char chars slash quote ih =>
    rw [List.cons_append, readEscaped_cons slash quote, ih]
    rfl

theorem readPhrase_phrase (text : String) (rest : List Char) :
    readPhrase ((phrase text).toList ++ rest) = some (text, rest) := by
  have written : (phrase text).toList ++ rest =
      '"' :: (escapePhrase text.toList ++ '"' :: rest) := by
    simp [phrase]
  rw [written, readPhrase, readEscaped_escapePhrase]
  simp

theorem readEscaped_append {chars inside after : List Char}
    (read : readEscaped chars = some (inside, after)) (more : List Char) :
    readEscaped (chars ++ more) = some (inside, after ++ more) := by
  fun_induction readEscaped chars generalizing inside with
  | case1 => cases read
  | case2 => cases read
  | case3 rest =>
    cases read
    rw [List.cons_append, readEscaped]
  | case4 char rest ih =>
    obtain ⟨⟨behind, _⟩, found, same⟩ := Option.map_eq_some_iff.mp read
    cases same
    simp [readEscaped, ih found]
  | case5 char rest last quote escaped ih =>
    have slash : char ≠ '\\' := by
      intro same
      cases rest with
      | nil => exact last same rfl
      | cons next later => exact escaped next later same rfl
    obtain ⟨⟨behind, _⟩, found, same⟩ := Option.map_eq_some_iff.mp read
    cases same
    rw [List.cons_append, readEscaped_cons slash quote, ih found]
    rfl

theorem readPhrase_append {chars after : List Char} {text : String}
    (read : readPhrase chars = some (text, after)) (more : List Char) :
    readPhrase (chars ++ more) = some (text, after ++ more) := by
  unfold readPhrase at read
  split at read
  · obtain ⟨⟨inside, _⟩, found, same⟩ := Option.map_eq_some_iff.mp read
    cases same
    rw [List.cons_append, readPhrase, readEscaped_append found]
    rfl
  · cases read

theorem phrase_injective : Function.Injective phrase := by
  intro text other same
  have read := readPhrase_phrase text []
  rw [same, readPhrase_phrase other []] at read
  exact (Prod.mk.inj (Option.some.inj read)).1.symm

theorem eq_of_readPhrase_prefix {start : List Char} {text : String}
    (within : start <+: (phrase text).toList) (read : (readPhrase start).isSome) :
    start = (phrase text).toList := by
  obtain ⟨more, whole⟩ := within
  obtain ⟨⟨shorter, after⟩, found⟩ := Option.isSome_iff_exists.mp read
  have both : some (text, []) = some (shorter, after ++ more) := by
    rw [← readPhrase_append found, whole, ← readPhrase_phrase text [], List.append_nil]
  have nothing : after ++ more = [] := (Prod.mk.inj (Option.some.inj both)).2.symm
  rw [← whole, (List.append_eq_nil_iff.mp nothing).2, List.append_nil]

/-- The quotes that the second replacement meets are those of the text: the first one writes
backslashes only. -/
theorem escapePhrase_eq_replaceFrom (chars : List Char) :
    escapePhrase chars =
      replaceFrom ['"'] ['\\', '"'] 0 (replaceFrom ['\\'] ['\\', '\\'] 0 chars) := by
  simp only [replaceFrom_singleton]
  fun_induction escapePhrase chars with
  | case1 => rfl
  | case2 chars ih => simp [ih]
  | case3 chars ih => simp [ih]
  | case4 char chars slash quote ih =>
    rw [List.flatMap_cons, if_neg slash, List.singleton_append, List.flatMap_cons, if_neg quote,
      List.singleton_append, ih]

theorem phrase_eq_replaceAll (text : String) :
    phrase text = "\"" ++ replaceAll (replaceAll text "\\" "\\\\") "\"" "\\\"" ++ "\"" := by
  rw [String.ext_iff, phrase, escapePhrase_eq_replaceFrom]
  simp [replaceAll]

end Text

namespace Search

def phraseCall (text : String) : Call where
  receiver := none
  args := [(.raw (Text.phrase text), Builtin.rawText "value")]
  signature := .declared "phrase" .search [Builtin.rawText "value"] (.type .raw) .plain
  bindings := .empty

theorem phrase_eq (text : String) : phrase text = .ok (.call (phraseCall text)) := rfl

theorem render_phrase (schema : Schema) (text : String) :
    (Renderer.standard schema).render (.call (phraseCall text)) = pure (Text.phrase text) := by
  have plain : ∀ argument ∈ (phraseCall text).args, argument.2.directiveKind? = none :=
    List.forall_mem_singleton.mpr rfl
  rw [Renderer.render_operand (CallOf.reduce_of_plain plain) rfl rfl rfl rfl rfl rfl]
  exact Renderer.render_raw schema _

def phraseText (schema : Schema) (text : String) : Except Error String := do
  let e ← phrase text
  ((Renderer.standard schema).render e).outcome

theorem phraseText_eq (schema : Schema) (text : String) :
    phraseText schema text = .ok (Text.phrase text) := by
  rw [phraseText, phrase_eq]
  exact congrArg Traced.outcome (render_phrase schema text)

/-- A phrase stands between double quotes, it is read up to its last character whatever follows
it, and what is read is its text: no part of it is a phrase of its own, and phrases of different
texts differ. -/
theorem phrase_closed (schema : Schema) :
    (∀ text, ∃ written, phraseText schema text = .ok written ∧
      written = "\"" ++
        Text.replaceAll (Text.replaceAll text "\\" "\\\\") "\"" "\\\"" ++ "\"" ∧
      (∀ rest, Text.readPhrase (written.toList ++ rest) = .some (text, rest)) ∧
      ∀ start, start <+: written.toList → (Text.readPhrase start).isSome →
        start = written.toList) ∧
    Function.Injective (phraseText schema) := by
  constructor
  · intro text
    exact ⟨Text.phrase text, phraseText_eq schema text, Text.phrase_eq_replaceAll text,
      Text.readPhrase_phrase text, fun _ => Text.eq_of_readPhrase_prefix⟩
  · intro text other same
    rw [phraseText_eq, phraseText_eq] at same
    exact Text.phrase_injective (Except.ok.inj same)

end Search
end ODataRequest
