import ODataRequest.Proofs.FilterTree
namespace ODataRequest.FilterTree

/-!
Reading the text of a filter back. The reader returns the tree that the text was written from,
so no two trees have one text.
-/

def tokenChar (char : Char) : Bool := char.isAlphanum || char == '_' || char == '/'

def readQuoted : List Char → Option (List Char × List Char)
  | '\'' :: '\'' :: rest => (readQuoted rest).map fun (text, rest) => ('\'' :: text, rest)
  | '\'' :: rest => Option.some ([], rest)
  | char :: rest => (readQuoted rest).map fun (text, rest) => (char :: text, rest)
  | [] => none

/-- What reads one tree and returns it with the characters that follow it. -/
abbrev Reader := List Char → Option (FilterTree × List Char)

def readOperands (read : Reader) (operator : List Char) :
    Nat → List Char → Option (List FilterTree × List Char)
  | bound + 1, ' ' :: rest => do
    let (t, rest) ← read (rest.drop (operator.length + 1))
    let (others, rest) ← readOperands read operator bound rest
    pure (t :: others, rest)
  | _, rest => pure ([], rest)

def readFilter (read : Reader) (bound : Nat) (chars : List Char) :
    Option (FilterTree × List Char) := do
  let (first, rest) ← read chars
  match rest with
  | ' ' :: more =>
    let operator := more.takeWhile tokenChar
    let (others, rest) ← readOperands read operator bound rest
    pure (.call (String.ofList operator) (first :: others), rest)
  | rest => pure (first, rest)

def readArguments (read : Reader) : Nat → List Char → Option (List FilterTree × List Char)
  | 0, _ => none
  | bound + 1, chars => do
    let (t, rest) ← read chars
    match rest with
    | ',' :: rest =>
      let (others, rest) ← readArguments read bound rest
      pure (t :: others, rest)
    | ')' :: rest => pure ([t], rest)
    | _ => none

def readToken (read : Reader) (bound : Nat) (token rest : List Char) :
    Option (FilterTree × List Char) :=
  if token = ['n', 'o', 't'] then
    match rest with
    | ' ' :: rest => do
      let (t, rest) ← read rest
      pure (.call "not" [t], rest)
    | _ => none
  else if token.all Char.isDigit then pure (.int (Nat.ofDigitChars 10 token 0), rest)
  else match rest with
    | '(' :: rest => do
      let (operands, rest) ← readArguments (readFilter read bound) bound rest
      pure (.call (String.ofList token) operands, rest)
    | rest => pure (.path ((token.splitOn '/').map String.ofList), rest)

def readOperand : Nat → Reader
  | 0, _ => none
  | _ + 1, '\'' :: rest => do
    let (text, rest) ← readQuoted rest
    pure (.string (String.ofList text), rest)
  | fuel + 1, '(' :: rest => do
    let (t, rest) ← readFilter (readOperand fuel) fuel rest
    match rest with
    | ')' :: rest => pure (t, rest)
    | _ => none
  | fuel + 1, '-' :: rest => do
    let (t, rest) ← readOperand fuel rest
    pure (.call "negate" [t], rest)
  | fuel + 1, chars =>
    readToken (readOperand fuel) fuel (chars.takeWhile tokenChar) (chars.dropWhile tokenChar)

/-- What may stand behind an operand: the end, a blank, a parenthesis or a comma. -/
def Stops (rest : List Char) : Prop := ∀ char, rest.head? = Option.some char →
  char = ' ' ∨ char = ')' ∨ char = ','

/-- What may stand behind a whole filter: as behind an operand, but no blank. -/
def Closes (rest : List Char) : Prop := ∀ char, rest.head? = Option.some char →
  char = ')' ∨ char = ','

def Ends (rest : List Char) : Prop := ∀ char, rest.head? = Option.some char → tokenChar char = false

theorem closes_nil : Closes [] := fun _ first => by cases first

theorem Closes.stops {rest : List Char} (closes : Closes rest) : Stops rest :=
  fun char first => .inr (closes char first)

theorem Stops.ends {rest : List Char} (stops : Stops rest) : Ends rest := by
  intro char first
  rcases stops char first with rfl | rfl | rfl
  · decide
  · decide
  · decide

theorem stops_cons {char : Char} (stop : char = ' ' ∨ char = ')' ∨ char = ',') (rest : List Char) :
    Stops (char :: rest) := by
  intro other first
  cases first
  exact stop

theorem closes_cons {char : Char} (close : char = ')' ∨ char = ',') (rest : List Char) :
    Closes (char :: rest) := by
  intro other first
  cases first
  exact close

theorem split_token {token rest : List Char} (letters : ∀ char ∈ token, tokenChar char = true)
    (ends : Ends rest) :
    (token ++ rest).takeWhile tokenChar = token ∧ (token ++ rest).dropWhile tokenChar = rest := by
  have taken : rest.takeWhile tokenChar = [] := by
    cases rest with
    | nil => rfl
    | cons char others =>
      have last : tokenChar char = false := ends char rfl
      rw [List.takeWhile_cons, last]
      rfl
  have left : rest.dropWhile tokenChar = rest := by
    cases rest with
    | nil => rfl
    | cons char others =>
      have last : tokenChar char = false := ends char rfl
      rw [List.dropWhile_cons, last]
      rfl
  constructor
  · rw [List.takeWhile_append_of_pos letters, taken, List.append_nil]
  · rw [List.dropWhile_append_of_pos letters, left]

theorem Stops.closed {rest : List Char} (stops : Stops rest) :
    rest.head? ≠ Option.some '\'' := by
  intro quote
  rcases stops '\'' quote with same | same | same
  · cases same
  · cases same
  · cases same

theorem readQuoted_doubleQuotes (text : List Char) {rest : List Char}
    (closed : rest.head? ≠ Option.some '\'') :
    readQuoted (Text.doubleQuotes text ++ '\'' :: rest) = Option.some (text, rest) := by
  induction text with
  | nil =>
    rw [Text.doubleQuotes, List.nil_append]
    cases rest with
    | nil => rfl
    | cons char others =>
      rw [readQuoted]
      intro more same
      cases same
      exact closed rfl
  | cons char others ih =>
    by_cases quote : char = '\''
    · rw [quote, Text.doubleQuotes, List.cons_append, List.cons_append, readQuoted, ih]
      rfl
    · rw [Text.doubleQuotes, List.cons_append, readQuoted, ih]
      · rfl
      · intro _ same
        exact absurd same quote
      · exact quote
      · exact quote

theorem readOperand_token {token rest : List Char} (filled : token ≠ [])
    (letters : ∀ char ∈ token, tokenChar char = true) (ends : Ends rest) (fuel : Nat) :
    readOperand (fuel + 1) (token ++ rest) = readToken (readOperand fuel) fuel token rest := by
  rcases split_token letters ends with ⟨taken, left⟩
  cases token with
  | nil => exact absurd rfl filled
  | cons char others =>
    have letter : tokenChar char = true := letters char List.mem_cons_self
    rw [List.cons_append] at taken left ⊢
    rw [readOperand, taken, left]
    · intro _ same
      cases same
      cases letter
    · intro _ same
      cases same
      cases letter
    · intro _ same
      cases same
      cases letter

def operandChars (t : FilterTree) : List Char :=
  if t.isInfix then '(' :: (t.text.toList ++ [')']) else t.text.toList

theorem joined_toList (separator text : String) (texts : List String) :
    (Text.joined separator (text :: texts)).toList =
      text.toList ++ texts.flatMap fun next => separator.toList ++ next.toList := by
  rw [Text.joined_cons, String.toList_append, String.toList_join, List.flatMap_map]
  simp only [String.toList_append]

theorem operandTexts_operator {outer : Layout} (operator : ∀ t, enclosed outer t = t.isInfix)
    (operands : List FilterTree) :
    operandTexts outer operands = operands.map fun t => String.ofList t.operandChars := by
  induction operands with
  | nil => rfl
  | cons t rest ih =>
    rw [operandTexts, operator, ih, List.map_cons, operandChars]
    cases t.isInfix with
    | true => simp [String.ext_iff]
    | false => simp

theorem operandTexts_function (name : String) (operands : List FilterTree) :
    operandTexts (.function name) operands = operands.map text := by
  induction operands with
  | nil => rfl
  | cons t rest ih =>
    rw [operandTexts, ih]
    rfl

theorem text_operator {name : String} (member : name ∈ operators) (first : FilterTree)
    (others : List FilterTree) :
    (call name (first :: others)).text.toList = first.operandChars ++
      others.flatMap fun t => ' ' :: (name.toList ++ ' ' :: t.operandChars) := by
  rw [text, layout_between member, Renderer.callText, operandTexts_operator fun _ => rfl,
    List.map_cons, joined_toList, List.flatMap_map]
  simp

theorem text_not (t : FilterTree) :
    (call "not" [t]).text.toList = 'n' :: 'o' :: 't' :: ' ' :: t.operandChars := by
  have prefixed : layout "not" = .before "not " := rfl
  rw [text, prefixed, Renderer.callText, operandTexts_operator fun _ => rfl]
  simp [Text.joined]

theorem text_negate (t : FilterTree) :
    (call "negate" [t]).text.toList = '-' :: t.operandChars := by
  have prefixed : layout "negate" = .before "-" := rfl
  rw [text, prefixed, Renderer.callText, operandTexts_operator fun _ => rfl]
  simp [Text.joined]

theorem layout_function {name : String} (member : name ∈ functions) :
    layout name = .function name := by
  have each : ∀ name ∈ functions, name ∉ operators ∧ name ≠ "not" ∧ name ≠ "negate" := by decide
  rcases each name member with ⟨between, negation, sign⟩
  rw [layout, if_neg between, if_neg negation, if_neg sign]

theorem text_function {name : String} (member : name ∈ functions) (first : FilterTree)
    (others : List FilterTree) :
    (call name (first :: others)).text.toList = name.toList ++ '(' ::
      (first.text.toList ++ (others.flatMap fun t => ',' :: t.text.toList) ++ [')']) := by
  rw [text, layout_function member, Renderer.callText, operandTexts_function, List.map_cons,
    String.toList_append, String.toList_append, String.toList_append, joined_toList,
    List.flatMap_map]
  simp

/-- The reader returns the tree from the text of an operand. -/
def Reads (read : Reader) (t : FilterTree) : Prop :=
  ∀ rest, Stops rest → read (t.operandChars ++ rest) = Option.some (t, rest)

def ReadsWhole (read : Reader) (t : FilterTree) : Prop :=
  ∀ rest, Closes rest → read (t.text.toList ++ rest) = Option.some (t, rest)

variable {read : Reader} {first t : FilterTree} {others : List FilterTree} {name : String}
  {bound : Nat}

theorem readOperands_text (operator : List Char) {rest : List Char}
    (reads : ∀ t ∈ others, Reads read t) (enough : others.length ≤ bound) (closes : Closes rest) :
    readOperands read operator bound
      ((others.flatMap fun t => ' ' :: (operator ++ ' ' :: t.operandChars)) ++ rest) =
        Option.some (others, rest) := by
  induction others generalizing bound with
  | nil =>
    rw [List.flatMap_nil, List.nil_append]
    have last : ∀ more, rest ≠ ' ' :: more := by
      intro more same
      rw [same] at closes
      rcases closes ' ' rfl with blank | blank
      · cases blank
      · cases blank
    rw [readOperands.eq_def]
    split
    · exact absurd rfl (last _)
    · rfl
  | cons t others ih =>
    cases bound with
    | zero => cases enough
    | succ bound =>
      have later := ih (fun other member => reads other (List.mem_cons_of_mem _ member))
        (Nat.le_of_succ_le_succ enough)
      have stops : Stops ((others.flatMap fun t => ' ' :: (operator ++ ' ' :: t.operandChars)) ++
          rest) := by
        cases others with
        | nil => exact closes.stops
        | cons next more => exact stops_cons (.inl rfl) _
      have head := reads t List.mem_cons_self _ stops
      have dropped : ∀ more : List Char,
          (operator ++ ' ' :: more).drop (operator.length + 1) = more := by
        intro more
        rw [List.append_cons, ← List.length_singleton (a := ' '), ← List.length_append,
          List.drop_left]
      rw [List.flatMap_cons, List.cons_append, List.cons_append, readOperands, List.append_assoc,
        List.append_assoc, List.cons_append, dropped, head]
      change (do
        let (others, rest) ← readOperands read operator bound _
        pure (t :: others, rest)) = _
      rw [later]
      rfl

theorem readFilter_operand {rest : List Char} (plain : t.isInfix = false) (reads : Reads read t)
    (closes : Closes rest) :
    readFilter read bound (t.text.toList ++ rest) = Option.some (t, rest) := by
  have head := reads rest closes.stops
  rw [operandChars, plain, if_neg Bool.false_ne_true] at head
  rw [readFilter, head]
  cases rest with
  | nil => rfl
  | cons char more =>
    rcases closes char rfl with rfl | rfl
    · rfl
    · rfl

theorem operator_letters (member : name ∈ operators) :
    ∀ char ∈ name.toList, tokenChar char = true := by
  have each : operators.all (fun name => name.toList.all tokenChar) = true := by decide
  exact List.all_eq_true.mp (List.all_eq_true.mp each name member)

theorem readFilter_operator {rest : List Char} (member : name ∈ operators) (filled : others ≠ [])
    (reads : ∀ t ∈ first :: others, Reads read t) (enough : others.length ≤ bound)
    (closes : Closes rest) :
    readFilter read bound ((call name (first :: others)).text.toList ++ rest) =
      Option.some (call name (first :: others), rest) := by
  rw [text_operator member, List.append_assoc]
  have tail := readOperands_text name.toList
    (fun t present => reads t (List.mem_cons_of_mem _ present)) enough closes
  cases others with
  | nil => exact absurd rfl filled
  | cons next more =>
    have stops : Stops (((next :: more).flatMap fun t =>
        ' ' :: (name.toList ++ ' ' :: t.operandChars)) ++ rest) := stops_cons (.inl rfl) _
    have head := reads first List.mem_cons_self _ stops
    have ends : Ends (' ' :: (next.operandChars ++
        ((more.flatMap fun t => ' ' :: (name.toList ++ ' ' :: t.operandChars)) ++ rest))) :=
      (stops_cons (.inl rfl) _).ends
    have operator := (split_token (operator_letters member) ends).1
    rw [List.flatMap_cons, List.cons_append, List.cons_append, List.append_assoc,
      List.append_assoc, List.cons_append] at head tail ⊢
    rw [readFilter, head]
    change (do
      let (others, rest) ← readOperands read ((name.toList ++ _).takeWhile tokenChar) bound _
      pure (call (String.ofList ((name.toList ++ _).takeWhile tokenChar)) (first :: others),
        rest)) = _
    rw [operator, tail, String.ofList_toList]
    rfl

theorem readArguments_text (rest : List Char) (reads : ∀ t ∈ first :: others, ReadsWhole read t)
    (enough : (first :: others).length ≤ bound) :
    readArguments read bound
      (first.text.toList ++ (others.flatMap fun t => ',' :: t.text.toList) ++ ')' :: rest) =
        Option.some (first :: others, rest) := by
  induction others generalizing first bound with
  | nil =>
    cases bound with
    | zero => cases enough
    | succ bound =>
      have head := reads first List.mem_cons_self _ (closes_cons (.inl rfl) rest)
      rw [List.flatMap_nil, List.append_nil, readArguments, head]
      rfl
  | cons next more ih =>
    cases bound with
    | zero => cases enough
    | succ bound =>
      have later := ih (fun t member => reads t (List.mem_cons_of_mem _ member))
        (Nat.le_of_succ_le_succ enough)
      have head := reads first List.mem_cons_self
        (',' :: (next.text.toList ++ (more.flatMap fun t => ',' :: t.text.toList) ++ ')' :: rest))
        (closes_cons (.inr rfl) _)
      rw [List.flatMap_cons, List.append_assoc, List.cons_append, List.cons_append, readArguments,
        head]
      change (do
        let (others, rest) ← readArguments read bound _
        pure (first :: others, rest)) = _
      rw [later]
      rfl

inductive Proper : FilterTree → Prop
  | path {names : List String} : names ≠ [] → (∀ name ∈ names, IsSegment name) →
      Proper (.path names)
  | string {text : String} : Proper (.string text)
  | int {n : Nat} : Proper (.int n)
  | operator {name : String} {first second : FilterTree} {others : List FilterTree} :
      name ∈ operators → (∀ t ∈ first :: second :: others, Proper t) →
      Proper (.call name (first :: second :: others))
  | not {t : FilterTree} : Proper t → Proper (.call "not" [t])
  | negate {t : FilterTree} : Proper t → Proper (.call "negate" [t])
  | function {name : String} {first : FilterTree} {others : List FilterTree} :
      name ∈ functions → (∀ t ∈ first :: others, Proper t) → Proper (.call name (first :: others))

theorem operandChars_plain (plain : t.isInfix = false) : t.operandChars = t.text.toList := by
  rw [operandChars, plain, if_neg Bool.false_ne_true]

theorem segment_letters (segment : IsSegment name) :
    ∀ char ∈ name.toList, tokenChar char = true := by
  intro char member
  rcases segment.letters char member with letter | rfl
  · rw [tokenChar, letter]
    rfl
  · decide

theorem slash_not_mem (segment : IsSegment name) : '/' ∉ name.toList := by
  intro member
  rcases segment.letters '/' member with letter | underscore
  · cases letter
  · cases underscore

theorem text_path (names : List String) :
    (path names).text.toList = ['/'].intercalate (names.map String.toList) := by
  rw [text, Text.joined, String.toList_intercalate]
  rfl

theorem splitOn_path {names : List String} (filled : names ≠ [])
    (segments : ∀ name ∈ names, IsSegment name) :
    ((path names).text.toList.splitOn '/').map String.ofList = names := by
  have apart : ∀ chars ∈ names.map String.toList, '/' ∉ chars := by
    intro chars member
    rcases List.mem_map.mp member with ⟨name, present, rfl⟩
    exact slash_not_mem (segments name present)
  rw [text_path, List.splitOn_intercalate '/' apart (by simpa using filled), List.map_map]
  simp [Function.comp_def]

theorem path_cons (first : String) (others : List String) :
    (path (first :: others)).text.toList =
      first.toList ++ others.flatMap fun name => '/' :: name.toList := by
  rw [text, joined_toList]
  rfl

theorem path_letters {names : List String} (segments : ∀ name ∈ names, IsSegment name) :
    ∀ char ∈ (path names).text.toList, tokenChar char = true := by
  cases names with
  | nil =>
    intro char member
    simp [text, Text.joined] at member
  | cons first others =>
    intro char member
    rw [path_cons] at member
    rcases List.mem_append.mp member with member | member
    · exact segment_letters (segments first List.mem_cons_self) char member
    · rcases List.mem_flatMap.mp member with ⟨name, present, member⟩
      rcases List.mem_cons.mp member with rfl | member
      · decide
      · exact segment_letters (segments name (List.mem_cons_of_mem _ present)) char member

theorem path_ne_not {names : List String} (filled : names ≠ [])
    (segments : ∀ name ∈ names, IsSegment name) : (path names).text.toList ≠ ['n', 'o', 't'] := by
  intro same
  have split := splitOn_path filled segments
  rw [same] at split
  have single : ["not"] = names := split
  rw [← single] at segments
  exact (segments "not" List.mem_cons_self).free rfl

theorem path_not_digits {names : List String} (filled : names ≠ [])
    (segments : ∀ name ∈ names, IsSegment name) :
    (path names).text.toList.all Char.isDigit = false := by
  cases names with
  | nil => exact absurd rfl filled
  | cons first others =>
    rcases (segments first List.mem_cons_self).first with ⟨char, head, other⟩
    rcases List.head?_eq_some_iff.mp head with ⟨more, letters⟩
    rw [path_cons, letters, List.cons_append, List.all_cons, other, Bool.false_and]

theorem reads_path {names : List String} (filled : names ≠ [])
    (segments : ∀ name ∈ names, IsSegment name) (fuel : Nat) :
    Reads (readOperand (fuel + 1)) (path names) := by
  intro rest stops
  have token : (path names).text.toList ≠ [] := by
    intro nothing
    have split := splitOn_path filled segments
    rw [nothing] at split
    have single : [""] = names := split
    rw [← single] at segments
    rcases (segments "" List.mem_cons_self).first with ⟨char, head, _⟩
    cases head
  rw [operandChars_plain rfl, readOperand_token token (path_letters segments) stops.ends,
    readToken.eq_def, if_neg (path_ne_not filled segments), path_not_digits filled segments,
    if_neg Bool.false_ne_true]
  split
  · rcases stops '(' rfl with blank | closing | comma
    · cases blank
    · cases closing
    · cases comma
  · rw [splitOn_path filled segments]
    rfl

theorem reads_string (text : String) (fuel : Nat) :
    Reads (readOperand (fuel + 1)) (string text) := by
  intro rest stops
  have chars : (string text).text.toList = '\'' :: (Text.doubleQuotes text.toList ++ ['\'']) := by
    rw [FilterTree.text, Text.quoted, String.toList_ofList]
    rfl
  rw [operandChars_plain rfl, chars, List.cons_append, List.append_assoc, readOperand]
  change (do
    let (text, rest) ← readQuoted (Text.doubleQuotes text.toList ++ '\'' :: rest)
    pure (string (String.ofList text), rest)) = _
  rw [readQuoted_doubleQuotes text.toList stops.closed, Option.pure_def]
  simp

theorem reads_int (n : Nat) (fuel : Nat) : Reads (readOperand (fuel + 1)) (int n) := by
  intro rest stops
  have chars : (int n).text.toList = Nat.toDigits 10 n := by
    rw [text, numeral, String.toList_ofList]
  have digits : ∀ char ∈ Nat.toDigits 10 n, char.isDigit = true :=
    fun char member => Nat.isDigit_of_mem_toDigits (by decide) (by decide) member
  have letters : ∀ char ∈ Nat.toDigits 10 n, tokenChar char = true := by
    intro char member
    simp [tokenChar, Char.isAlphanum, digits char member]
  have other : Nat.toDigits 10 n ≠ ['n', 'o', 't'] := by
    intro same
    rw [same] at digits
    exact absurd (digits 'n' List.mem_cons_self) (by decide)
  rw [operandChars_plain rfl, chars, readOperand_token Nat.toDigits_ne_nil letters stops.ends,
    readToken.eq_def, if_neg other, if_pos (List.all_eq_true.mpr digits),
    Nat.ofDigitChars_ten_toDigits]
  rfl

theorem reads_not {fuel : Nat} (reads : Reads (readOperand fuel) t) :
    Reads (readOperand (fuel + 1)) (call "not" [t]) := by
  intro rest stops
  have plain : (call "not" [t]).isInfix = false := rfl
  have letters : ∀ char ∈ ['n', 'o', 't'], tokenChar char = true := by simp [tokenChar]
  have ends : Ends (' ' :: (t.operandChars ++ rest)) := (stops_cons (.inl rfl) _).ends
  have token := readOperand_token (List.cons_ne_nil _ _) letters ends fuel
  rw [operandChars_plain plain, text_not]
  change readOperand (fuel + 1) (['n', 'o', 't'] ++ ' ' :: (t.operandChars ++ rest)) = _
  rw [token, readToken, if_pos rfl]
  dsimp only
  rw [reads rest stops]
  rfl

theorem reads_negate {fuel : Nat} (reads : Reads (readOperand fuel) t) :
    Reads (readOperand (fuel + 1)) (call "negate" [t]) := by
  intro rest stops
  have plain : (call "negate" [t]).isInfix = false := rfl
  rw [operandChars_plain plain, text_negate, List.cons_append, readOperand, reads rest stops]
  rfl

theorem function_facts (member : name ∈ functions) :
    name ∉ operators ∧ name.toList ≠ [] ∧ name.toList ≠ ['n', 'o', 't'] ∧
      name.toList.all tokenChar = true ∧ name.toList.all Char.isDigit = false := by
  have each : ∀ name ∈ functions, name ∉ operators ∧ name.toList ≠ [] ∧
      name.toList ≠ ['n', 'o', 't'] ∧ name.toList.all tokenChar = true ∧
      name.toList.all Char.isDigit = false := by decide
  exact each name member

theorem reads_function {fuel : Nat} (member : name ∈ functions)
    (reads : ∀ t ∈ first :: others, ReadsWhole (readFilter (readOperand fuel) fuel) t)
    (enough : (first :: others).length ≤ fuel) :
    Reads (readOperand (fuel + 1)) (call name (first :: others)) := by
  intro rest stops
  rcases function_facts member with ⟨other, filled, denial, letters, digits⟩
  have plain : (call name (first :: others)).isInfix = false := by
    rw [← Bool.not_eq_true, isInfix_iff]
    exact other
  have ends : Ends ('(' :: (first.text.toList ++
      (others.flatMap fun t => ',' :: t.text.toList) ++ ')' :: rest)) := by
    intro char head
    cases head
    decide
  have arguments := readArguments_text rest reads enough
  rw [operandChars_plain plain, text_function member, List.append_assoc, List.cons_append,
    List.append_assoc, List.singleton_append,
    readOperand_token filled (List.all_eq_true.mp letters) ends, readToken, if_neg denial, digits,
    if_neg Bool.false_ne_true]
  dsimp only
  rw [arguments, String.ofList_toList]
  rfl

theorem reads_operator {fuel : Nat} (member : name ∈ operators) (filled : others ≠ [])
    (reads : ∀ t ∈ first :: others, Reads (readOperand fuel) t) (enough : others.length ≤ fuel) :
    Reads (readOperand (fuel + 1)) (call name (first :: others)) := by
  intro rest stops
  have whole := readFilter_operator member filled reads enough (closes_cons (.inl rfl) rest)
  rw [operandChars, if_pos (isInfix_iff.mpr member), List.cons_append, List.append_assoc,
    List.singleton_append, readOperand, whole]
  rfl

theorem length_le_sizeOf (operands : List FilterTree) : operands.length ≤ sizeOf operands := by
  induction operands with
  | nil => exact Nat.zero_le _
  | cons t rest ih =>
    rw [List.length_cons, List.cons.sizeOf_spec]
    omega

theorem sizeOf_operand (name : String) {operands : List FilterTree} (member : t ∈ operands) :
    sizeOf t < sizeOf (call name operands) := by
  have smaller := List.sizeOf_lt_of_mem member
  rw [FilterTree.call.sizeOf_spec]
  omega

theorem length_lt_sizeOf (name : String) (operands : List FilterTree) :
    operands.length < sizeOf (call name operands) := by
  have length := length_le_sizeOf operands
  rw [FilterTree.call.sizeOf_spec]
  omega

theorem readsWhole_of_reads (plain : t.isInfix = false) (reads : Reads read t) :
    Reads read t ∧ ReadsWhole (readFilter read bound) t :=
  ⟨reads, fun _ closes => readFilter_operand plain reads closes⟩

theorem reads_proper (proper : Proper t) {fuel : Nat} (enough : sizeOf t ≤ fuel) :
    Reads (readOperand fuel) t ∧ ReadsWhole (readFilter (readOperand fuel) fuel) t := by
  -- Operands are read with one unit of fuel less, and they are smaller than the tree.
  induction proper generalizing fuel with
  | path filled segments =>
    cases fuel with
    | zero => simp at enough
    | succ fuel => exact readsWhole_of_reads rfl (reads_path filled segments fuel)
  | string =>
    cases fuel with
    | zero => simp at enough
    | succ fuel => exact readsWhole_of_reads rfl (reads_string _ fuel)
  | int =>
    cases fuel with
    | zero => simp at enough
    | succ fuel => exact readsWhole_of_reads rfl (reads_int _ fuel)
  | @operator name first second others member _ ih =>
    have bound := length_lt_sizeOf name (first :: second :: others)
    rw [List.length_cons] at bound
    cases fuel with
    | zero => omega
    | succ fuel =>
      have inner : ∀ t ∈ first :: second :: others, Reads (readOperand fuel) t := by
        intro t present
        have smaller := sizeOf_operand name present
        exact (ih t present (by omega)).1
      have outer : ∀ t ∈ first :: second :: others, Reads (readOperand (fuel + 1)) t := by
        intro t present
        have smaller := sizeOf_operand name present
        exact (ih t present (by omega)).1
      constructor
      · exact reads_operator member (List.cons_ne_nil _ _) inner (by omega)
      · intro rest closes
        exact readFilter_operator member (List.cons_ne_nil _ _) outer (by omega) closes
  | @not t _ ih =>
    have smaller := sizeOf_operand "not" (List.mem_singleton_self t)
    cases fuel with
    | zero => omega
    | succ fuel =>
      have operand : Reads (readOperand fuel) t := (ih (by omega)).1
      exact readsWhole_of_reads rfl (reads_not operand)
  | @negate t _ ih =>
    have smaller := sizeOf_operand "negate" (List.mem_singleton_self t)
    cases fuel with
    | zero => omega
    | succ fuel =>
      have operand : Reads (readOperand fuel) t := (ih (by omega)).1
      exact readsWhole_of_reads rfl (reads_negate operand)
  | @function name first others member _ ih =>
    have bound := length_lt_sizeOf name (first :: others)
    have plain : (call name (first :: others)).isInfix = false := by
      rw [← Bool.not_eq_true, isInfix_iff]
      exact (function_facts member).1
    cases fuel with
    | zero => omega
    | succ fuel =>
      have arguments : ∀ t ∈ first :: others,
          ReadsWhole (readFilter (readOperand fuel) fuel) t := by
        intro t present
        have smaller := sizeOf_operand name present
        exact (ih t present (by omega)).2
      exact readsWhole_of_reads plain (reads_function member arguments (by omega))

theorem text_injective {other : FilterTree} (proper : Proper t) (otherProper : Proper other)
    (same : t.text = other.text) : t = other := by
  have read := (reads_proper proper (Nat.le_max_left (sizeOf t) (sizeOf other))).2 [] closes_nil
  have again :=
    (reads_proper otherProper (Nat.le_max_right (sizeOf t) (sizeOf other))).2 [] closes_nil
  rw [same, again] at read
  cases read
  rfl

theorem isPath_segments {names : List String} {e : Expr} (walked : IsPath names e) :
    names ≠ [] ∧ ∀ name ∈ names, IsSegment name := by
  induction walked with
  | @first _ name _ _ segment =>
    refine ⟨List.cons_ne_nil _ _, ?_⟩
    intro other member
    cases List.mem_singleton.mp member
    exact segment
  | @next names _ name _ _ segment ih =>
    refine ⟨by simp, ?_⟩
    intro other member
    rcases List.mem_append.mp member with member | member
    · exact ih.2 other member
    · cases List.mem_singleton.mp member
      exact segment

theorem proper_operator {operands : List FilterTree} (member : name ∈ operators)
    (several : 2 ≤ operands.length) (each : ∀ t ∈ operands, Proper t) :
    Proper (call name operands) := by
  match operands with
  | [] => cases several
  | [_] => simp at several
  | first :: second :: others => exact .operator member each

theorem proper_function {operands : List FilterTree} (member : name ∈ functions)
    (filled : 1 ≤ operands.length) (each : ∀ t ∈ operands, Proper t) :
    Proper (call name operands) := by
  match operands with
  | [] => cases filled
  | first :: others => exact .function member each

theorem proper_applies {args : List Expr} {e : Expr} {operands : List FilterTree}
    (applies : Applies name args e) (arity : operands.length = args.length)
    (each : ∀ t ∈ operands, Proper t) : Proper (call name operands) := by
  cases applies with
  | compare member => exact proper_operator (by simp [operators, member]) (by simp [arity]) each
  | has => exact proper_operator (by decide) (by simp [arity]) each
  | arithmetic member => exact proper_operator (by simp [operators, member]) (by simp [arity]) each
  | all several => exact proper_operator (by decide) (arity ▸ several) each
  | some several => exact proper_operator (by decide) (arity ▸ several) each
  | not =>
    rcases List.length_eq_one_iff.mp arity with ⟨t, rfl⟩
    exact .not (each t List.mem_cons_self)
  | negate =>
    rcases List.length_eq_one_iff.mp arity with ⟨t, rfl⟩
    exact .negate (each t List.mem_cons_self)
  | rounding member => exact proper_function (by simp [functions, member]) (by simp [arity]) each
  | unary member => exact proper_function (by simp [functions, member]) (by simp [arity]) each
  | binary member => exact proper_function (by simp [functions, member]) (by simp [arity]) each
  | substring => exact proper_function (by decide) (by simp [arity]) each

theorem proper_of_built {e : Expr} (built : Built t e) : Proper t := by
  induction t using FilterTree.induction generalizing e with
  | path names =>
    cases built with
    | path walked => exact .path (isPath_segments walked).1 (isPath_segments walked).2
  | string text => exact .string
  | int n => exact .int
  | call name operands ih =>
    cases built with
    | call applies operands_built =>
      have shape := shape_of_applies applies
      have arity := operands_built.length_eq
      rw [List.length_map, shape.arity] at arity
      apply proper_applies applies arity
      intro t member
      rcases exists_of_forall₂ operands_built member with ⟨e, _, built⟩
      exact ih t member built

/-- Two filters are rendered alike only if they are the same tree, types apart. -/
theorem render_eq_iff {schema : Schema} {other : FilterTree} {e otherExpr : Expr}
    (built : Built t e) (otherBuilt : Built other otherExpr) :
    ((Renderer.standard schema).render e).outcome =
      ((Renderer.standard schema).render otherExpr).outcome ↔ t = other := by
  rw [render_built schema built, render_built schema otherBuilt]
  constructor
  · intro same
    exact text_injective (proper_of_built built) (proper_of_built otherBuilt) (Except.ok.inj same)
  · rintro rfl
    rfl

namespace Shop

def item (name : String) : Expr :=
  .member (Option.some (.root (.ofType itContext (.named "Shop" "Item")))) name .boolean

def condition : Parameter := (Builtin.typed "conditions" .boolean).asRepeated

def both (left right : Expr) : Call where
  receiver := none
  args := [(left, condition), (right, condition)]
  signature := .declared "and" .filter [condition] (.type .boolean) (.between "and")
  bindings := .empty

def nested : Expr := .call (both (item "New") (.call (both (item "Sold") (item "New"))))

def turned : Expr := .call (both (.call (both (item "New") (item "Sold"))) (item "New"))

theorem built_item {name : String} (segment : IsSegment name) :
    Built (.path [name]) (item name) := .path (.first rfl segment)

theorem segment_New : IsSegment "New" := ⟨by simp, ⟨'N', rfl, rfl⟩, by decide⟩

theorem segment_Sold : IsSegment "Sold" := ⟨by simp, ⟨'S', rfl, rfl⟩, by decide⟩

theorem built_both {left right : Expr} {t other : FilterTree}
    (applied : Filter.all [left, right] = .ok (.call (both left right))) (left_built : Built t left)
    (right_built : Built other right) :
    Built (.call "and" [t, other]) (.call (both left right)) := by
  have applies : Applies "and" [left, right] (.call (both left right)) :=
    .all (Nat.le_refl 2) applied
  exact .call applies (.cons left_built (.cons right_built .nil))

end Shop

theorem render_eq_iff_turned :
    ∃ t other, Built t Shop.nested ∧ Built other Shop.turned ∧
      ((Renderer.standard ⟨[], by decide⟩).render Shop.nested).outcome ≠
        ((Renderer.standard ⟨[], by decide⟩).render Shop.turned).outcome := by
  have new := Shop.built_item Shop.segment_New
  have sold := Shop.built_item Shop.segment_Sold
  have nested := Shop.built_both rfl new (Shop.built_both rfl sold new)
  have turned := Shop.built_both rfl (Shop.built_both rfl new sold) new
  refine ⟨_, _, nested, turned, ?_⟩
  intro same
  have trees := (render_eq_iff nested turned).mp same
  cases trees

end ODataRequest.FilterTree
