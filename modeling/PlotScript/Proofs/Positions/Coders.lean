import PlotScript.Proofs.Coercion.Values
import PlotScript.Proofs.Positions.Access

/-!
# Coders by positions

A text is cut at a colon and hexadecimal digits are cut into channels by the numbers of bytes, and
the numbers of a list are taken by their indices. A colon is one byte wide wherever it stands, and
what is cut into channels are digits of one byte each, so the cuts are between characters whatever
else the text holds. A list of numbers has as many of them as were asked for.
-/

namespace PlotScript.Positional

open Coercion

/-! ## The first colon -/

/-- The characters of a text with the numbers of the bytes where they begin. -/
def charIndices (pos : Nat) : List Char → List (Nat × Char)
  | [] => []
  | c :: rest => (pos, c) :: charIndices (pos + c.utf8Size) rest

def unescape (s : String) : String :=
  String.ofList (unescapeColons s.toList)

/-- Cuts a text at the first colon among some of its characters that is not escaped. -/
def splitAmong {ε : Type} (text : String) (escaped : Bool) :
    List (Nat × Char) → Checked ε (Option (String × String))
  | [] => return none
  | (pos, c) :: rest =>
      if c = '\\' ∧ !escaped then splitAmong text true rest
      else if c = ':' ∧ !escaped then do
        let low ← byteSlice text 0 pos
        let high ← byteSlice text (pos + 1) text.utf8ByteSize
        return some (unescape low, unescape high)
      else splitAmong text false rest

/-- The two sides of the first colon that is not escaped. -/
def splitColon {ε : Type} (text : String) : Checked ε (Option (String × String)) :=
  splitAmong text false (charIndices 0 text.toList)

theorem bytes_concat (front : List Char) (c : Char) :
    bytes (front ++ [c]) = bytes front + c.utf8Size := by
  rw [bytes, String.utf8Len_append, String.utf8Len_cons, String.utf8Len_nil, Nat.zero_add]

/-- At a colon the text is cut in front of it and behind it. -/
theorem byteSlice_around_colon {ε : Type} (front rest : List Char) :
    (byteSlice (String.ofList (front ++ ':' :: rest)) 0 (bytes front) : Checked ε String) =
        .ok (String.ofList front) ∧
      (byteSlice (String.ofList (front ++ ':' :: rest)) (bytes front + 1)
        (String.ofList (front ++ ':' :: rest)).utf8ByteSize : Checked ε String) =
        .ok (String.ofList rest) := by
  constructor
  · have first := @byteSlice_middle ε [] front (':' :: rest)
    rwa [bytes, String.utf8Len_nil, Nat.zero_add] at first
  · have last := @byteSlice_middle ε (front ++ [':']) rest []
    rw [List.append_nil, List.append_assoc, List.singleton_append, bytes_concat] at last
    have stop : (String.ofList (front ++ ':' :: rest)).utf8ByteSize =
        bytes front + ':'.utf8Size + bytes rest := by
      rw [String.utf8ByteSize_ofList, String.utf8Len_append, String.utf8Len_cons, Nat.add_assoc,
        Nat.add_comm ':'.utf8Size]
    rw [stop]
    exact last

theorem splitAmong_eq {ε : Type} (front rest : List Char) (escaped : Bool) :
    (splitAmong (String.ofList (front ++ rest)) escaped (charIndices (bytes front) rest) :
      Checked ε _) =
      .ok ((cutAtColon escaped rest).map fun (low, high) =>
        (String.ofList (unescapeColons (front ++ low)), String.ofList (unescapeColons high))) := by
  induction rest generalizing front escaped with
  | nil => rfl
  | cons c rest ih =>
      have next := fun escaped => ih (front ++ [c]) escaped
      simp only [bytes_concat, List.append_assoc, List.singleton_append] at next
      rw [charIndices, splitAmong, cutAtColon]
      by_cases slash : c = '\\' ∧ !escaped
      · rw [if_pos slash, if_pos slash, next, Option.map_map]
        rfl
      by_cases colon : c = ':' ∧ !escaped
      · obtain ⟨rfl, bare⟩ := colon
        obtain ⟨first, last⟩ := @byteSlice_around_colon ε front rest
        rw [if_neg slash, if_pos ⟨rfl, bare⟩, if_neg slash, if_pos ⟨rfl, bare⟩, first, last]
        simp [unescape, bind, Except.bind, pure, Except.pure]
      · rw [if_neg slash, if_neg colon, if_neg slash, if_neg colon, next, Option.map_map]
        rfl

theorem splitColon_eq {ε : Type} (text : String) :
    (splitColon text : Checked ε _) =
      .ok ((Coercion.splitColon text.toList).map fun (low, high) =>
        (String.ofList low, String.ofList high)) := by
  have whole := @splitAmong_eq ε [] text.toList false
  rw [List.nil_append, String.ofList_toList] at whole
  rw [splitColon, Coercion.splitColon, Option.map_map]
  exact whole

example : (splitColon "é\\:ü:ß" : Checked Empty _) = .ok (some ("é:ü", "ß")) := by
  rw [splitColon_eq]
  rfl

/-! ## Hexadecimal colors -/

/-- The number that hexadecimal digits stand for, if it fits into a byte. -/
def hexDigits? (digits : List Char) : Option Nat :=
  if digits ≠ [] ∧ digits.all Coder.isHexDigit then
    let n := digits.foldl (fun n c => 16 * n + Coder.hexValue c) 0
    if n < 256 then some n else none
  else none

/-- A number of one byte in hexadecimal digits, with a plus sign in front of it or without. -/
def hexByte? : List Char → Option Nat
  | '+' :: digits => hexDigits? digits
  | digits => hexDigits? digits

/-- The channel that is written from a byte on. -/
def channelAt (digits expanded : String) (i : Nat) : Checked Misread Binary64 := do
  let pair ← byteSlice expanded i (i + 2)
  match hexByte? pair.toList with
  | some step => return Coder.channel step
  | none => throw (.refused (.notHexadecimal digits))

/-- A text of hexadecimal digits with two of them for each channel. -/
def sixDigits (digits : String) : Checked Misread String :=
  match digits.utf8ByteSize with
  | 3 => return String.ofList (digits.toList.flatMap fun c => [c, c])
  | 6 => return digits
  | _ => throw (.refused .hexLength)

/-- The color of three or six hexadecimal digits. -/
def hexColor (digits : String) : Checked Misread Value := do
  if digits.toList.all Coder.isHexDigit then
    let expanded ← sixDigits digits
    return .color (← channelAt digits expanded 0) (← channelAt digits expanded 2)
      (← channelAt digits expanded 4)
  else throw (.refused (.notHexadecimal digits))

theorem utf8Size_of_isHexDigit {c : Char} (digit : Coder.isHexDigit c = true) :
    c.utf8Size = 1 := by
  simp only [Coder.isHexDigit, Char.isDigit, Bool.or_eq_true, Bool.and_eq_true,
    decide_eq_true_eq] at digit
  change ((_ ∧ c.toNat ≤ 57) ∨ _ ∧ c.toNat ≤ 102) ∨ _ ∧ c.toNat ≤ 70 at digit
  rw [Char.utf8Size_eq_one_iff]
  show c.toNat ≤ 127
  omega

theorem bytes_of_hex {digits : List Char} (digit : ∀ c ∈ digits, Coder.isHexDigit c = true) :
    bytes digits = digits.length := by
  induction digits with
  | nil => rfl
  | cons c digits ih =>
      obtain ⟨first, others⟩ := List.forall_mem_cons.1 digit
      rw [bytes, String.utf8Len_cons, utf8Size_of_isHexDigit first, List.length_cons]
      exact congrArg (· + 1) (ih others)

theorem hexByte?_pair {a b : Char} (first : Coder.isHexDigit a = true)
    (second : Coder.isHexDigit b = true) :
    hexByte? [a, b] = some (16 * Coder.hexValue a + Coder.hexValue b) := by
  have unsigned : a ≠ '+' := by
    rintro rfl
    exact absurd first (by decide)
  have high := Coder.hexValue_lt first
  have low := Coder.hexValue_lt second
  have fits : 16 * Coder.hexValue a + Coder.hexValue b < 256 := by omega
  have digits : hexByte? [a, b] = hexDigits? [a, b] := by
    rw [hexByte?.eq_def]
    simp [unsigned]
  rw [digits, hexDigits?]
  simp [first, second, fits]

/-- Two digits are a channel, wherever they stand among digits. -/
theorem channelAt_eq (digits : String) {front rest : List Char} {a b : Char}
    (digit : ∀ c ∈ front ++ a :: b :: rest, Coder.isHexDigit c = true) :
    channelAt digits (String.ofList (front ++ a :: b :: rest)) front.length =
      .ok (Coder.channel (16 * Coder.hexValue a + Coder.hexValue b)) := by
  simp only [List.forall_mem_append, List.forall_mem_cons] at digit
  obtain ⟨before, first, second, -⟩ := digit
  have pair : (byteSlice (String.ofList (front ++ a :: b :: rest)) front.length
      (front.length + 2) : Checked Misread String) = .ok (String.ofList [a, b]) := by
    have both : ∀ c ∈ [a, b], Coder.isHexDigit c = true :=
      List.forall_mem_cons.2 ⟨first, List.forall_mem_singleton.2 second⟩
    have cut := @byteSlice_middle Misread front [a, b] rest
    rw [List.append_assoc, bytes_of_hex before, bytes_of_hex both] at cut
    exact cut
  rw [channelAt, pair]
  simp only [bind, Except.bind, String.toList_ofList, hexByte?_pair first second]
  rfl

/-- Six digits are the three channels of a color. -/
theorem channels_eq (digits : String) {r₁ r₂ g₁ g₂ b₁ b₂ : Char}
    (digit : ∀ c ∈ [r₁, r₂, g₁, g₂, b₁, b₂], Coder.isHexDigit c = true) :
    (do
      let expanded := String.ofList [r₁, r₂, g₁, g₂, b₁, b₂]
      return Value.color (← channelAt digits expanded 0) (← channelAt digits expanded 2)
        (← channelAt digits expanded 4)) =
      (.ok (Coder.rgb (16 * Coder.hexValue r₁ + Coder.hexValue r₂)
        (16 * Coder.hexValue g₁ + Coder.hexValue g₂)
        (16 * Coder.hexValue b₁ + Coder.hexValue b₂)) : Checked Misread Value) := by
  have red := @channelAt_eq digits [] [g₁, g₂, b₁, b₂] r₁ r₂ digit
  have green := @channelAt_eq digits [r₁, r₂] [b₁, b₂] g₁ g₂ digit
  have blue := @channelAt_eq digits [r₁, r₂, g₁, g₂] [] b₁ b₂ digit
  simp only [List.length_cons, List.length_nil, List.nil_append, List.cons_append] at red green blue
  simp only [red, green, blue]
  rfl

theorem hexColor_eq (digits : String) :
    hexColor digits = lift (Coder.readHexColor digits.toList) := by
  obtain ⟨s, rfl⟩ : ∃ s, digits = String.ofList s := ⟨digits.toList, String.ofList_toList.symm⟩
  rw [hexColor, Coder.readHexColor, String.toList_ofList]
  by_cases hexadecimal : s.all Coder.isHexDigit = true
  · have digit : ∀ c ∈ s, Coder.isHexDigit c = true := List.all_eq_true.1 hexadecimal
    have size : (String.ofList s).utf8ByteSize = s.length :=
      (String.utf8ByteSize_ofList s).trans (bytes_of_hex digit)
    rw [if_pos hexadecimal, if_pos hexadecimal, sixDigits, size, String.toList_ofList]
    match s, digit with
    | [r, g, b], digit =>
        have doubled : ∀ c ∈ [r, r, g, g, b, b], Coder.isHexDigit c = true := by
          intro c member
          exact digit c (by simpa using member)
        have channels := channels_eq (String.ofList [r, g, b]) doubled
        simp only [← Nat.succ_mul] at channels
        exact channels
    | [r₁, r₂, g₁, g₂, b₁, b₂], digit => exact channels_eq _ digit
    | [], _ | [_], _ | [_, _], _ | [_, _, _, _], _ | [_, _, _, _, _], _
    | _ :: _ :: _ :: _ :: _ :: _ :: _ :: _, _ => rfl
  · rw [if_neg hexadecimal, if_neg hexadecimal]
    rfl

/-! ## Lists of numbers -/

theorem length_of_readNumbers {count : Nat} {s : List Char} {xs : List Binary64}
    (read : readNumbers count s = .ok xs) : xs.length = count := by
  rw [readNumbers] at read
  split at read
  · rename_i parts
    rw [← (mapM_eq_ok_iff.1 read).length_eq, parts]
  · cases read

/-- Three numbers between zero and one. -/
def threeChannels (body : List Char) : Checked Misread Value := do
  let rgb ← lift (readNumbers 3 body)
  if rgb.all Binary64.inUnitInterval then
    return .color (← item rgb 0) (← item rgb 1) (← item rgb 2)
  else throw (.refused .colorBounds)

/-- A color in hexadecimal digits or as three numbers. -/
def color (text : String) : Checked Misread Value :=
  match Text.trim text.toList with
  | '#' :: digits => hexColor (String.ofList digits)
  | body => threeChannels body

def point (text : String) : Checked Misread Value := do
  let xy ← lift (readNumbers 2 text.toList)
  return .point (← item xy 0) (← item xy 1)

def alignedPoint (text : String) : Checked Misread Value := do
  match Coder.alignedParts text.toList with
  | none => throw (.refused .notAlignedPoint)
  | some (v, h, body) =>
      let xy ← lift (readNumbers 2 body)
      return .alignedPoint (← item xy 0) (← item xy 1) (Coder.horizontalName h)
        (Coder.verticalName v)

def box (text : String) : Checked Misread Value := do
  let c ← lift (readNumbers 4 (Text.replaceFirst ':' ',' text.toList))
  return .box (← item c 0) (← item c 1) (← item c 2) (← item c 3)

theorem point_eq (text : String) : point text = lift (Coder.point.decode text) := by
  rw [point]
  simp only [Coder.point]
  cases read : readNumbers 2 text.toList with
  | error misread => rfl
  | ok xs =>
      obtain ⟨x, y, rfl⟩ := List.length_eq_two.1 (length_of_readNumbers read)
      rfl

theorem alignedPoint_eq (text : String) :
    alignedPoint text = lift (Coder.alignedPoint.decode text) := by
  rw [alignedPoint]
  simp only [Coder.alignedPoint]
  cases Coder.alignedParts text.toList with
  | none => rfl
  | some parts =>
      obtain ⟨v, h, body⟩ := parts
      cases read : readNumbers 2 body with
      | error misread => simp [read, bind, Except.bind]
      | ok xs =>
          obtain ⟨x, y, rfl⟩ := List.length_eq_two.1 (length_of_readNumbers read)
          simp only [read]
          rfl

theorem box_eq (text : String) : box text = lift (Coder.box.decode text) := by
  rw [box]
  simp only [Coder.box]
  cases read : readNumbers 4 (Text.replaceFirst ':' ',' text.toList) with
  | error misread => rfl
  | ok xs =>
      match xs, length_of_readNumbers read with
      | [x₁, y₁, x₂, y₂], _ => rfl

theorem color_eq (text : String) : color text = lift (Coder.color.decode text) := by
  rw [color]
  simp only [Coder.color]
  generalize Text.trim text.toList = body
  by_cases hash : body.head? = some '#'
  · obtain ⟨digits, rfl⟩ := List.head?_eq_some_iff.1 hash
    have read := hexColor_eq (String.ofList digits)
    rwa [String.toList_ofList] at read
  · -- with this at hand both matches come down to their second branch
    have plain : ∀ digits, body = '#' :: digits → False := by
      rintro digits rfl
      exact hash rfl
    simp only [threeChannels]
    cases read : readNumbers 3 body with
    | error misread => rfl
    | ok rgb =>
        obtain ⟨r, g, b, rfl⟩ := List.length_eq_three.1 (length_of_readNumbers read)
        by_cases bounded : [r, g, b].all Binary64.inUnitInterval = true
        · simp only [lift_ok, bind, Except.bind, if_pos bounded]
          rfl
        · simp only [lift_ok, bind, Except.bind, if_neg bounded]
          rfl

end PlotScript.Positional
