namespace ODataRequest.Text

/-- Walks the text; `skipped` characters of an occurrence are still to be passed over. -/
def replaceFrom (pattern replacement : List Char) : Nat → List Char → List Char
  | _, [] => []
  | skipped + 1, _ :: rest => replaceFrom pattern replacement skipped rest
  | 0, char :: rest =>
    if pattern.isPrefixOf (char :: rest) then
      replacement ++ replaceFrom pattern replacement (pattern.length - 1) rest
    else
      char :: replaceFrom pattern replacement 0 rest

def replaceAll (text pattern replacement : String) : String :=
  String.ofList (replaceFrom pattern.toList replacement.toList 0 text.toList)

def dropLeading (char : Char) (text : String) : String :=
  String.ofList (text.toList.dropWhile (· == char))

def dropTrailing (char : Char) (text : String) : String :=
  String.ofList (text.toList.reverse.dropWhile (· == char)).reverse

def occursIn (pattern : List Char) : List Char → Bool
  | [] => pattern.isEmpty
  | char :: rest => pattern.isPrefixOf (char :: rest) || occursIn pattern rest

def joined (separator : String) (parts : List String) : String :=
  separator.intercalate parts

theorem replaceFrom_singleton (mark : Char) (replacement chars : List Char) :
    replaceFrom [mark] replacement 0 chars =
      chars.flatMap fun char => if char = mark then replacement else [char] := by
  induction chars with
  | nil => rfl
  | cons char rest ih =>
    rw [replaceFrom, List.flatMap_cons, List.length_singleton, Nat.sub_self, ih]
    by_cases same : char = mark
    · simp [same]
    · simp [same, Ne.symm same]

theorem replaceFrom_char (mark replacement : Char) (chars : List Char) :
    replaceFrom [mark] [replacement] 0 chars =
      chars.map fun char => if char = mark then replacement else char := by
  rw [replaceFrom_singleton, List.map_eq_flatMap]
  congr
  funext char
  split <;> rfl

theorem joined_cons (separator text : String) (texts : List String) :
    joined separator (text :: texts) = text ++ String.join (texts.map (separator ++ ·)) := by
  induction texts generalizing text with
  | nil => simp [joined, String.join]
  | cons next rest ih =>
    have later := ih next
    unfold joined at later ⊢
    rw [String.intercalate_cons_cons, later, List.map_cons, String.join_cons]
    simp only [String.append_assoc]

theorem joined_concat {texts : List String} (filled : texts ≠ []) (separator text : String) :
    joined separator (texts ++ [text]) = joined separator texts ++ (separator ++ text) := by
  obtain ⟨first, rest, rfl⟩ := List.exists_cons_of_ne_nil filled
  rw [List.cons_append, joined_cons, joined_cons, List.map_append, String.join_append,
    String.append_assoc]
  simp [String.join_cons]

end ODataRequest.Text
