import ODataRequest.Client.Body
import ODataRequest.Proofs.Utf8Runs
import Mathlib.Algebra.Ring.Nat
namespace ODataRequest

/-!
What an error keeps of the body of a response. The body is cut by octets and read afterwards, so
the text kept can be longer than the limit, and a character across the cut is not kept as such.
-/

namespace Text

section Cut

variable {char : Char} {n : Nat}

theorem decodeFrom_cut (some_read : 0 < n) (short : n < (String.utf8EncodeChar char).length) :
    decodeFrom none ((String.utf8EncodeChar char).take n) = [none] := by
  have scalar : char.val.toNat < 0xD800 ∨ 0xDFFF < char.val.toNat ∧ char.val.toNat < 0x110000 :=
    char.valid
  revert short
  unfold String.utf8EncodeChar
  generalize char.val.toNat = v at scalar
  dsimp only
  -- However many octets the character has, any fewer leave the decoder waiting for the next one.
  split
  · intro short
    simp only [List.length_singleton] at short
    omega
  split
  · intro short
    simp only [List.length_cons, List.length_nil] at short
    obtain rfl : n = 1 := by omega
    have first := firstOctet_two (show 0x80 ≤ v by omega) (by omega)
    exact decodeFrom_first_pending (by omega) [] first
  have second {missing least greatest : Nat} (above : least ≤ v / 64 % 64 + 128)
      (below : v / 64 % 64 + 128 ≤ greatest) (bits : Nat) :
      nextOctet ⟨missing + 2, least, greatest, bits⟩ (v / 64 % 64 + 128) =
        .pending ⟨missing + 1, 0x80, 0xBF, bits * 64 + v / 64 % 64⟩ :=
    nextOctet_pending above below
  split
  · intro short
    simp only [List.length_cons, List.length_nil] at short
    obtain ⟨least, greatest, first, above, below⟩ :=
      firstOctet_three (show 0x800 ≤ v by omega) (by omega) (by omega)
    obtain rfl | rfl : n = 1 ∨ n = 2 := by omega
    · exact decodeFrom_first_pending (by omega) [] first
    · refine (decodeFrom_first_pending (by omega) _ first).trans ?_
      exact decodeFrom_next_pending (by omega) [] (second above below _)
  · intro short
    simp only [List.length_cons, List.length_nil] at short
    obtain ⟨least, greatest, first, above, below⟩ :=
      firstOctet_four (show 0x10000 ≤ v by omega) (by omega)
    have next := @nextOctet_pending 1 _ _ (v / 262144) _ above below
    obtain rfl | rfl | rfl : n = 1 ∨ n = 2 ∨ n = 3 := by omega
    · exact decodeFrom_first_pending (by omega) [] first
    · refine (decodeFrom_first_pending (by omega) _ first).trans ?_
      exact decodeFrom_next_pending (by omega) [] next
    · refine (decodeFrom_first_pending (by omega) _ first).trans ?_
      refine (decodeFrom_next_pending (by omega) _ next).trans ?_
      exact decodeFrom_next_pending (by omega) [] (second (by omega) (by omega) _)

end Cut

def fitting : Nat → List Char → List Char
  | _, [] => []
  | n, char :: rest =>
    if (String.utf8EncodeChar char).length ≤ n then
      char :: fitting (n - (String.utf8EncodeChar char).length) rest
    else []

def octetCount (chars : List Char) : Nat := (chars.flatMap String.utf8EncodeChar).length

section Fitting

variable {char : Char} {chars rest : List Char} {n : Nat}

@[simp] theorem octetCount_nil : octetCount [] = 0 := rfl

@[simp] theorem octetCount_cons :
    octetCount (char :: rest) = (String.utf8EncodeChar char).length + octetCount rest := by
  simp [octetCount]

@[simp] theorem octetCount_append :
    octetCount (chars ++ rest) = octetCount chars + octetCount rest := by
  simp [octetCount]

theorem octetCount_replicate (n : Nat) :
    octetCount (List.replicate n char) = n * (String.utf8EncodeChar char).length := by
  induction n with
  | zero => simp
  | succ n ih => rw [List.replicate_succ, octetCount_cons, ih, Nat.succ_mul, Nat.add_comm]

theorem octetCount_fitting_le (n : Nat) (chars : List Char) :
    octetCount (fitting n chars) ≤ n := by
  induction chars generalizing n with
  | nil => simp [fitting]
  | cons char rest ih =>
    rw [fitting]
    split
    · have others := ih (n - (String.utf8EncodeChar char).length)
      rw [octetCount_cons]
      omega
    · simp

theorem fitting_next (split : chars = fitting n chars ++ char :: rest) :
    n < octetCount (fitting n chars) + (String.utf8EncodeChar char).length := by
  induction chars generalizing n with
  | nil => simp [fitting] at split
  | cons first others ih =>
    rw [fitting] at split ⊢
    by_cases fits : (String.utf8EncodeChar first).length ≤ n
    · rw [if_pos fits, List.cons_append] at split
      have later := ih (List.cons.inj split).2
      rw [if_pos fits, octetCount_cons]
      omega
    · rw [if_neg fits, List.nil_append] at split
      rw [if_neg fits, (List.cons.inj split).1.symm, octetCount_nil]
      omega

theorem fitting_isPrefix (n : Nat) (chars : List Char) : fitting n chars <+: chars := by
  induction chars generalizing n with
  | nil => exact List.prefix_rfl
  | cons char rest ih =>
    rw [fitting]
    split
    · exact List.cons_prefix_cons.mpr ⟨rfl, ih _⟩
    · exact List.nil_prefix

theorem octetCount_fitting_of_begins {whole : List Char} (begins : whole <+: chars)
    (full : octetCount whole = min n (octetCount chars)) :
    octetCount (fitting n chars) = min n (octetCount chars) := by
  rcases List.prefix_or_prefix_of_prefix begins (fitting_isPrefix n chars) with
    ⟨others, longer⟩ | ⟨others, longer⟩
  · have counted := congrArg octetCount longer
    obtain ⟨left, all⟩ := fitting_isPrefix n chars
    have total := congrArg octetCount all
    have fits := octetCount_fitting_le n chars
    rw [octetCount_append] at counted total
    omega
  · cases others with
    | nil => rw [← longer, List.append_nil] at full; exact full
    | cons char others =>
      obtain ⟨left, all⟩ := begins
      have split : chars = fitting n chars ++ char :: (others ++ left) := by
        rw [← List.cons_append, ← List.append_assoc, longer, all]
      have next := fitting_next split
      have counted := congrArg octetCount longer
      rw [octetCount_append, octetCount_cons] at counted
      omega

theorem fitting_append (fits : octetCount chars ≤ n) :
    fitting n (chars ++ rest) = chars ++ fitting (n - octetCount chars) rest := by
  induction chars generalizing n with
  | nil => rfl
  | cons char others ih =>
    rw [octetCount_cons] at fits
    rw [List.cons_append, fitting, if_pos (by omega), ih (by omega), octetCount_cons,
      Nat.sub_add_eq, List.cons_append]

/-- Cutting a text keeps the characters that fit, and one gap for a character across the cut. -/
theorem decodeFrom_take (n : Nat) (chars : List Char) :
    decodeFrom none ((chars.flatMap String.utf8EncodeChar).take n) =
      (fitting n chars).map some ++
        if octetCount (fitting n chars) = min n (octetCount chars) then [] else [none] := by
  induction chars generalizing n with
  | nil => simp [fitting, decodeFrom]
  | cons char rest ih =>
    rw [List.flatMap_cons, List.take_append, fitting]
    by_cases fits : (String.utf8EncodeChar char).length ≤ n
    · have same : (octetCount (char :: fitting (n - (String.utf8EncodeChar char).length) rest) =
            min n (octetCount (char :: rest))) ↔
          octetCount (fitting (n - (String.utf8EncodeChar char).length) rest) =
            min (n - (String.utf8EncodeChar char).length) (octetCount rest) := by
        rw [octetCount_cons, octetCount_cons]
        omega
      rw [if_pos fits, List.take_of_length_le fits, decodeFrom_utf8EncodeChar, ih]
      simp only [same, List.map_cons, List.cons_append]
    · have short : n < (String.utf8EncodeChar char).length := by omega
      have least : min n (octetCount (char :: rest)) = n := by
        rw [octetCount_cons]
        omega
      rw [if_neg fits, Nat.sub_eq_zero_of_le (by omega), List.take_zero, List.append_nil, least]
      by_cases read : 0 < n
      · rw [decodeFrom_cut read short, octetCount_nil, if_neg (by omega)]
        rfl
      · obtain rfl : n = 0 := by omega
        rfl

end Fitting

def WholeAt (n : Nat) (text : String) : Prop :=
  ∃ whole, whole <+: text.toList ∧ octetCount whole = min n (octetCount text.toList)

theorem ofUtf8Lossy_take (n : Nat) (text : String) :
    (ofUtf8Lossy ((toUtf8 text).take n)).toList = fitting n text.toList ++
      if octetCount (fitting n text.toList) = min n (octetCount text.toList) then []
      else ['\uFFFD'] := by
  rw [ofUtf8Lossy, String.toList_ofList, decodeUtf8, toUtf8, decodeFrom_take, List.map_append,
    List.map_map]
  congr 1
  · exact List.map_id _
  · split <;> rfl

theorem ofUtf8Lossy_severed {n : Nat} {chars : List Char} {char : Char}
    (begun : octetCount chars < n)
    (severed : n < octetCount chars + (String.utf8EncodeChar char).length) :
    (ofUtf8Lossy ((toUtf8 (String.ofList (chars ++ [char]))).take n)).toList =
      chars ++ ['\uFFFD'] := by
  have fits : fitting n (chars ++ [char]) = chars := by
    rw [fitting_append (Nat.le_of_lt begun), fitting, if_neg (by omega), List.append_nil]
  have kept := ofUtf8Lossy_take n (String.ofList (chars ++ [char]))
  rw [String.toList_ofList, fits, octetCount_append, octetCount_cons, octetCount_nil,
    if_neg (by omega)] at kept
  exact kept

theorem prefix_iff_wholeAt {n : Nat} {text : String}
    (bounded : octetCount (ofUtf8Lossy ((toUtf8 text).take n)).toList ≤ n) :
    (ofUtf8Lossy ((toUtf8 text).take n)).toList <+: text.toList ↔ WholeAt n text := by
  have kept := ofUtf8Lossy_take n text
  by_cases whole : octetCount (fitting n text.toList) = min n (octetCount text.toList)
  · rw [if_pos whole, List.append_nil] at kept
    rw [kept]
    exact ⟨fun begins => ⟨_, begins, whole⟩, fun _ => fitting_isPrefix _ _⟩
  · rw [if_neg whole] at kept
    rw [kept] at bounded ⊢
    constructor
    · rintro ⟨left, all⟩
      have next := fitting_next (show text.toList = fitting n text.toList ++ '\uFFFD' :: left by
        rw [List.append_cons, all])
      rw [octetCount_append, octetCount_cons, octetCount_nil] at bounded
      omega
    · rintro ⟨beginning, begins, full⟩
      exact absurd (octetCount_fitting_of_begins begins full) whole

section Gains

variable {run : Run} {runs : List Run}

theorem Run.count_mark (sound : run.Sound) :
    (String.utf8EncodeChar run.mark).length = run.octets.length + run.gain := by
  obtain ⟨octets, _ | char⟩ := run
  · have width : 1 ≤ octets.length ∧ octets.length ≤ 3 := sound
    have replaced : (String.utf8EncodeChar '\uFFFD').length = 3 := by decide
    simp only [Run.mark, Run.gain, Option.getD_none, replaced]
    omega
  · have spelled : String.utf8EncodeChar char = octets := sound
    simp [Run.mark, Run.gain, ← spelled]

theorem Run.gain_le (sound : run.Sound) : run.gain ≤ 2 * run.octets.length := by
  obtain ⟨octets, _ | char⟩ := run
  · have width : 1 ≤ octets.length ∧ octets.length ≤ 3 := sound
    simp only [Run.gain]
    omega
  · exact Nat.zero_le _

theorem octetCount_marks (sound : ∀ run ∈ runs, run.Sound) :
    octetCount (runs.map Run.mark) =
      (runs.flatMap Run.octets).length + (runs.map Run.gain).sum := by
  induction runs with
  | nil => rfl
  | cons run rest ih =>
    obtain ⟨first, others⟩ := List.forall_mem_cons.mp sound
    rw [List.map_cons, octetCount_cons, run.count_mark first, ih others, List.flatMap_cons,
      List.length_append, List.map_cons, List.sum_cons]
    omega

theorem sum_gain_le (sound : ∀ run ∈ runs, run.Sound) :
    (runs.map Run.gain).sum ≤ 2 * (runs.flatMap Run.octets).length := by
  induction runs with
  | nil => exact Nat.zero_le _
  | cons run rest ih =>
    obtain ⟨first, others⟩ := List.forall_mem_cons.mp sound
    have own := run.gain_le first
    have later := ih others
    rw [List.map_cons, List.sum_cons, List.flatMap_cons, List.length_append]
    omega

end Gains

end Text

/-- The text kept of a body, with the runs of octets that it was read from. -/
structure Preview (body : List UInt8) (kept : String) (runs : List Text.Run) : Prop where
  cut : runs.flatMap Text.Run.octets = body.take previewLimit
  sound : ∀ run ∈ runs, run.Sound
  read : kept = String.ofList (runs.map Text.Run.mark)

theorem exists_preview (body : List UInt8) :
    ∃ runs, Preview body (Text.ofUtf8Lossy (body.take previewLimit)) runs := by
  obtain ⟨runs, cut, chars, sound⟩ := Text.parted_decodeUtf8 (body.take previewLimit)
  refine ⟨runs, cut, sound, ?_⟩
  rw [Text.ofUtf8Lossy, ← chars, List.map_map]
  rfl

namespace Preview

variable {body : List UInt8} {kept : String} {runs : List Text.Run}

theorem octetCount_kept (preview : Preview body kept runs) :
    Text.octetCount kept.toList =
      min previewLimit body.length + (runs.map Text.Run.gain).sum := by
  rw [preview.read, String.toList_ofList, Text.octetCount_marks preview.sound, preview.cut,
    List.length_take]

theorem bounded_iff (preview : Preview body kept runs) :
    Text.octetCount kept.toList ≤ previewLimit ↔
      (runs.map Text.Run.gain).sum ≤ previewLimit - body.length := by
  rw [preview.octetCount_kept]
  omega

theorem octetCount_le (preview : Preview body kept runs) :
    Text.octetCount kept.toList ≤ 3 * previewLimit := by
  have gained := Text.sum_gain_le preview.sound
  rw [preview.cut, List.length_take] at gained
  rw [preview.octetCount_kept]
  omega

end Preview

theorem Response.parse_failed {response : Response} (expected : Expectation)
    (failed : response.status.isSuccess = false) :
    response.parse expected = .fail response.statusError := by
  rw [Response.parse, failed]
  rfl

theorem Response.parse_severed {response : Response} (expected : Expectation)
    (failed : response.status.isSuccess = false) {chars : List Char} {char : Char}
    (body : response.body = Text.toUtf8 (String.ofList (chars ++ [char])))
    (begun : Text.octetCount chars < previewLimit)
    (severed : previewLimit < Text.octetCount chars + (String.utf8EncodeChar char).length) :
    ∃ kept, response.parse expected =
        .fail (.status response.status kept response.contentTypeText?) ∧
      kept.toList = chars ++ ['\uFFFD'] := by
  refine ⟨_, Response.parse_failed expected failed, ?_⟩
  rw [body]
  exact Text.ofUtf8Lossy_severed begun severed

/-- The text that a failed response leaves in the error stays within the limit and begins a sound
body exactly if the replacements take no more than what the body leaves free, and no character
lies across the cut. It is never more than three times as long as the limit. -/
theorem error_preview_iff (response : Response) (expected : Expectation)
    (failed : response.status.isSuccess = false) :
    ∃ kept runs, Preview response.body kept runs ∧
      response.parse expected =
        .fail (.status response.status kept response.contentTypeText?) ∧
      Text.octetCount kept.toList ≤ 3 * previewLimit ∧
      ((Text.octetCount kept.toList ≤ previewLimit ∧
          ∀ text, response.body = Text.toUtf8 text → kept.toList <+: text.toList) ↔
        (runs.map Text.Run.gain).sum ≤ previewLimit - response.body.length ∧
          ∀ text, response.body = Text.toUtf8 text → Text.WholeAt previewLimit text) := by
  obtain ⟨runs, preview⟩ := exists_preview response.body
  refine ⟨_, runs, preview, Response.parse_failed expected failed, preview.octetCount_le, ?_⟩
  rw [← preview.bounded_iff]
  refine and_congr_right fun bounded => forall_congr' fun text => ?_
  refine imp_congr_right fun spelled => ?_
  rw [spelled] at bounded ⊢
  exact Text.prefix_iff_wholeAt bounded

namespace Outage

def missing : Response := ⟨⟨404⟩, none, Text.toUtf8 "gone"⟩

def page : String := String.ofList (List.replicate 8191 'a' ++ ['é'])

def severed : Response := ⟨⟨503⟩, none, Text.toUtf8 page⟩

end Outage

theorem error_preview_missing :
    Outage.missing.status.isSuccess = false ∧ ∃ kept,
      Outage.missing.parse { accept := .json } = .fail (.status ⟨404⟩ kept none) ∧
      Text.octetCount kept.toList ≤ previewLimit ∧ kept.toList <+: "gone".toList := by
  have failed : Outage.missing.status.isSuccess = false := by decide
  obtain ⟨kept, runs, preview, parsed, -, faithful⟩ :=
    error_preview_iff Outage.missing { accept := .json } failed
  have short : Outage.missing.body.length = 4 := by decide
  have gained := Text.sum_gain_le preview.sound
  rw [preview.cut, List.length_take, short] at gained
  have room : (runs.map Text.Run.gain).sum ≤ previewLimit - Outage.missing.body.length := by
    rw [short]
    exact Nat.le_trans gained (by decide)
  obtain ⟨bounded, begins⟩ := faithful.mpr ⟨room, fun text spelled => by
    have count : Text.octetCount text.toList = 4 := by
      rw [← short, spelled]
      rfl
    exact ⟨text.toList, List.prefix_rfl, by rw [count]; rfl⟩⟩
  exact ⟨failed, kept, parsed, bounded, begins "gone" rfl⟩

/-- The last character has two octets. One of them is kept, and what replaces it makes the text
longer than the limit. -/
theorem error_preview_severed :
    Outage.severed.status.isSuccess = false ∧ Outage.severed.body = Text.toUtf8 Outage.page ∧
      ∃ kept, Outage.severed.parse { accept := .json } = .fail (.status ⟨503⟩ kept none) ∧
        Text.octetCount kept.toList = previewLimit + 2 ∧ ¬ kept.toList <+: Outage.page.toList := by
  have failed : Outage.severed.status.isSuccess = false := by decide
  have many : Text.octetCount (List.replicate 8191 'a') = 8191 := by
    rw [Text.octetCount_replicate]
    rfl
  have last : (String.utf8EncodeChar 'é').length = 2 := by decide
  have replaced : Text.octetCount ['\uFFFD'] = 3 := by decide
  have body : Outage.severed.body = Text.toUtf8 Outage.page := by rw [Outage.severed]
  obtain ⟨kept, parsed, cut⟩ := Response.parse_severed { accept := .json } failed body
    (by rw [many]; decide) (by rw [many, last]; decide)
  refine ⟨failed, body, kept, parsed, ?_, ?_⟩
  · rw [cut, Text.octetCount_append, many, replaced, previewLimit]
  · have spelled : Outage.page.toList = List.replicate 8191 'a' ++ ['é'] := String.toList_ofList
    rw [cut, spelled]
    exact fun begins => absurd ((List.prefix_append_right_inj _).mp begins) (by decide)

end ODataRequest
