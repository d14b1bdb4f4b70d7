import ODataRequest.Proofs.FilterReader
namespace ODataRequest

namespace Text

open FilterTree (joined_toList readQuoted readQuoted_doubleQuotes)

/-- Reads a literal from its opening quote on, and returns what follows it. -/
def readLiteral : List Char → Option (String × List Char)
  | '\'' :: rest => (readQuoted rest).map fun (text, rest) => (String.ofList text, rest)
  | _ => none

theorem readQuoted_eq_some_iff {chars text rest : List Char} :
    readQuoted chars = some (text, rest) ↔
      chars = doubleQuotes text ++ '\'' :: rest ∧ rest.head? ≠ some '\'' := by
  refine ⟨?_, fun ⟨same, closed⟩ => same ▸ readQuoted_doubleQuotes text closed⟩
  intro read
  fun_induction readQuoted chars generalizing text with
  | case1 chars ih =>
    rcases Option.map_eq_some_iff.mp read with ⟨⟨text', rest'⟩, inner, same⟩
    cases same
    rcases ih inner with ⟨rfl, closed⟩
    exact ⟨rfl, closed⟩
  | case2 chars single =>
    cases read
    refine ⟨rfl, ?_⟩
    intro quote
    rcases List.head?_eq_some_iff.mp quote with ⟨more, same⟩
    exact single more same
  | case3 char chars doubled single ih =>
    rcases Option.map_eq_some_iff.mp read with ⟨⟨text', rest'⟩, inner, same⟩
    cases same
    rcases ih inner with ⟨rfl, closed⟩
    refine ⟨?_, closed⟩
    rw [doubleQuotes]
    · rfl
    · exact single
  | case4 => cases read

theorem readLiteral_eq_some_iff {chars rest : List Char} {text : String} :
    readLiteral chars = some (text, rest) ↔
      chars = (quoted text).toList ++ rest ∧ rest.head? ≠ some '\'' := by
  have written : (quoted text).toList ++ rest =
      '\'' :: (doubleQuotes text.toList ++ '\'' :: rest) := by
    rw [quoted, String.toList_ofList]
    simp
  rw [written]
  constructor
  · intro read
    unfold readLiteral at read
    split at read
    · rename_i chars
      rcases Option.map_eq_some_iff.mp read with ⟨⟨text', rest'⟩, inner, same⟩
      cases same
      rcases readQuoted_eq_some_iff.mp inner with ⟨rfl, closed⟩
      rw [String.toList_ofList]
      exact ⟨rfl, closed⟩
    · cases read
  · rintro ⟨rfl, closed⟩
    rw [readLiteral, readQuoted_doubleQuotes text.toList closed]
    simp

theorem readLiteral_shortens {chars rest : List Char} {text : String}
    (read : readLiteral chars = some (text, rest)) : rest.length < chars.length := by
  rw [(readLiteral_eq_some_iff.mp read).1, List.length_append, quoted, String.toList_ofList]
  simp

def readLiterals (chars : List Char) : Option (List String × List Char) :=
  match _read : readLiteral chars with
  | some (text, ',' :: rest) =>
    (readLiterals rest).map fun (texts, rest) => (text :: texts, rest)
  | some (text, ')' :: rest) => some ([text], rest)
  | _ => none
termination_by chars.length
decreasing_by
  have shorter := readLiteral_shortens _read
  simp only [List.length_cons] at shorter
  omega

def readList : List Char → Option (List String × List Char)
  | '(' :: ')' :: rest => some ([], rest)
  | '(' :: rest => readLiterals rest
  | _ => none

def literalChars (first : String) (others : List String) (rest : List Char) : List Char :=
  (quoted first).toList ++ ((others.flatMap fun next => ',' :: (quoted next).toList) ++ rest)

theorem literalChars_cons (first next : String) (others : List String) (rest : List Char) :
    literalChars first (next :: others) rest =
      (quoted first).toList ++ ',' :: literalChars next others rest := by
  simp [literalChars]

section Steps

variable {chars rest : List Char} {text : String}

theorem readLiterals_comma (head : readLiteral chars = some (text, ',' :: rest)) :
    readLiterals chars =
      (readLiterals rest).map fun (texts, rest) => (text :: texts, rest) := by
  rw [readLiterals]
  split
  all_goals
    rename_i read
    rw [head] at read
    grind

theorem readLiterals_close (head : readLiteral chars = some (text, ')' :: rest)) :
    readLiterals chars = some ([text], rest) := by
  rw [readLiterals]
  split
  all_goals
    rename_i read
    rw [head] at read
    grind

end Steps

theorem readLiterals_written (first : String) (others : List String) (rest : List Char) :
    readLiterals (literalChars first others (')' :: rest)) = some (first :: others, rest) := by
  induction others generalizing first with
  | nil => exact readLiterals_close (readLiteral_eq_some_iff.mpr ⟨rfl, by simp⟩)
  | cons next others ih =>
    have head : readLiteral (literalChars first (next :: others) (')' :: rest)) =
        some (first, ',' :: literalChars next others (')' :: rest)) :=
      readLiteral_eq_some_iff.mpr ⟨literalChars_cons first next others _, by simp⟩
    rw [readLiterals_comma head, ih]
    rfl

theorem written_of_readLiterals {chars rest : List Char} {texts : List String}
    (read : readLiterals chars = some (texts, rest)) :
    ∃ first others, texts = first :: others ∧ chars = literalChars first others (')' :: rest) := by
  fun_induction readLiterals chars generalizing texts with
  | case1 chars first behind head ih =>
    rcases Option.map_eq_some_iff.mp read with ⟨⟨texts', rest'⟩, inner, same⟩
    cases same
    rcases ih inner with ⟨next, others, rfl, rfl⟩
    refine ⟨first, next :: others, rfl, ?_⟩
    rw [(readLiteral_eq_some_iff.mp head).1, literalChars_cons]
  | case2 chars only behind head =>
    cases read
    exact ⟨only, [], rfl, (readLiteral_eq_some_iff.mp head).1⟩
  | case3 => cases read

def quotedList (texts : List String) : String := "(" ++ joined "," (texts.map quoted) ++ ")"

theorem toList_quotedList (first : String) (others : List String) (rest : List Char) :
    (quotedList (first :: others)).toList ++ rest =
      '(' :: literalChars first others (')' :: rest) := by
  rw [quotedList, List.map_cons, String.toList_append, String.toList_append, joined_toList,
    List.flatMap_map, literalChars]
  simp

theorem readList_eq_some_iff {chars rest : List Char} {texts : List String} :
    readList chars = some (texts, rest) ↔ chars = (quotedList texts).toList ++ rest := by
  constructor
  · intro read
    unfold readList at read
    split at read
    · cases read
      rfl
    · rcases written_of_readLiterals read with ⟨first, others, rfl, rfl⟩
      rw [toList_quotedList]
    · cases read
  · rintro rfl
    cases texts with
    | nil => rfl
    | cons first others =>
      rw [toList_quotedList, readList, readLiterals_written]
      simp [literalChars, quoted]

end Text

namespace Literal

theorem serialize_string (schema : Schema) (text : String) :
    serialize schema (.string text) .string = .ok (Text.quoted text) := by
  rfl

theorem serializeItems_strings (schema : Schema) (texts : List String) :
    serializeItems schema (texts.map .string) .string = .ok (texts.map Text.quoted) := by
  induction texts with
  | nil => rfl
  | cons first others ih =>
    rw [List.map_cons, serializeItems, serialize_string, ih]
    rfl

theorem serialize_strings (schema : Schema) (texts : List String) :
    serialize schema (.list (texts.map .string)) (.collection .string) =
      .ok (Text.quotedList texts) := by
  have items := serializeItems_strings schema texts
  rw [serialize]
  change (serializeItems schema (texts.map .string) .string >>= fun parts => _) = _
  rw [items]
  rfl

/-- A string literal stands between single quotes, and a reader takes a text for a literal of the
string, ending where it ends, exactly if it is the one written for it. The same holds for lists:
in parentheses, with commas between the literals, whatever the strings hold. -/
theorem strings_read_back (schema : Schema) :
    (∀ text, serialize schema (.string text) .string = .ok (Text.quoted text) ∧
      (∃ inner, (Text.quoted text).toList = '\'' :: (inner ++ ['\''])) ∧
      ∀ chars rest, Text.readLiteral chars = some (text, rest) ↔
        chars = (Text.quoted text).toList ++ rest ∧ rest.head? ≠ some '\'') ∧
    ∀ texts : List String,
      serialize schema (.list (texts.map .string)) (.collection .string) =
        .ok ("(" ++ Text.joined "," (texts.map Text.quoted) ++ ")") ∧
      ∀ chars rest, Text.readList chars = some (texts, rest) ↔
        chars = ("(" ++ Text.joined "," (texts.map Text.quoted) ++ ")").toList ++ rest := by
  constructor
  · intro text
    refine ⟨serialize_string schema text, ⟨Text.doubleQuotes text.toList, ?_⟩, ?_⟩
    · rw [Text.quoted, String.toList_ofList, List.cons_append]
    · exact fun chars rest => Text.readLiteral_eq_some_iff
  · intro texts
    exact ⟨serialize_strings schema texts, fun chars rest => Text.readList_eq_some_iff⟩

end Literal
end ODataRequest
