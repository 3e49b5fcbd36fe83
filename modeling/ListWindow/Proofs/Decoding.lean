import ListWindow.Proofs.Painting
import Mathlib.Data.List.Chain
import Mathlib.Logic.Relation

/-!
The bytes sent to a terminal tell what was sent. They are read back by parting them at the escape
characters: what follows one is a command, and then text up to the next (`decode?`). However texts
without escape characters, movements, colours and styles follow each other, no two of them run into
each other: they come back one by one, only that texts side by side come back as one and empty texts
not at all (`output_decodes`).
-/
namespace ListWindow.Screen

open Relation (Join ReflTransGen)

/-- What every escape sequence begins with. -/
def escape : Char := '\u001b'

def Command.isText : Command → Bool
  | .text _ => true
  | _ => false

/-! ## Reading back -/

/-- One of the characters that stand between the bracket of a sequence and its last character. -/
def isParameter (c : Char) : Bool := 0x30 ≤ c.toNat && c.toNat ≤ 0x3F

/-- Numbers with semicolons between them. -/
def numbers? (body : List Char) : Option (List Nat) :=
  (body.splitOn ';').mapM fun digits =>
    if digits.all Char.isDigit then some (Nat.ofDigitChars 10 digits 0) else none

/-- The command of the numbers of a sequence and its last character. -/
def Command.ofNumbers? : List Nat → Char → Option Command
  | [line + 1, column + 1], 'H' => some (.moveTo column line)
  | [2], 'K' => some .clearLine
  | [2], 'J' => some .clearScreen
  | [0], 'm' => some .resetAttributes
  | [code], 'm' => some (.turnOn code)
  | [38, 2, red, green, blue], 'm' =>
    some (.foreground ⟨red.toUInt8, green.toUInt8, blue.toUInt8⟩)
  | [48, 2, red, green, blue], 'm' =>
    some (.background ⟨red.toUInt8, green.toUInt8, blue.toUInt8⟩)
  | _, _ => none

/-- The command of a sequence, from what stands between the bracket and its last character, and from
that character. -/
def Command.ofSequence? (body : List Char) (last : Char) : Option Command :=
  match numbers? body with
  | some values => ofNumbers? values last
  | none =>
    if body ≠ ['?', '2', '5'] then none
    else if last = 'l' then some .hideCursor
    else if last = 'h' then some .showCursor
    else none

def plainText (cs : List Char) : Frame := if cs = [] then [] else [.text (String.ofList cs)]

/-- What follows an escape character: a command, then text. -/
def segment? : List Char → Option Frame
  | '[' :: cs =>
    match cs.dropWhile isParameter with
    | [] => none
    | last :: rest =>
      (Command.ofSequence? (cs.takeWhile isParameter) last).map (· :: plainText rest)
  | _ => none

/-- The frame of its written form. -/
def decode? (cs : List Char) : Option Frame :=
  match cs.splitOn escape with
  | [] => none
  | first :: later => (later.mapM segment?).map (plainText first ++ ·.flatten)

/-- The frame of its bytes. -/
def Frame.ofBytes? (bytes : ByteArray) : Option Frame :=
  (String.fromUTF8? bytes).bind (decode? ·.toList)

/-! ## Texts side by side -/

/-- Put a command before a frame. A text becomes one with the text after it, and an empty one is
left out. -/
def put : Command → Frame → Frame
  | .text content, .text more :: frame => .text (content ++ more) :: frame
  | .text content, frame => if content = "" then frame else .text content :: frame
  | command, frame => command :: frame

/-- A frame with its texts put together. -/
def merged (frame : Frame) : Frame := frame.foldr put []

/-- Two texts become one, or an empty text is left out. -/
inductive Joins : Frame → Frame → Prop where
  | join (before after : Frame) (content more : String) :
      Joins (before ++ .text content :: .text more :: after)
        (before ++ .text (content ++ more) :: after)
  | drop (before after : Frame) : Joins (before ++ .text "" :: after) (before ++ after)

/-- There is nothing left to join. -/
structure Parted (frame : Frame) : Prop where
  filled : .text "" ∉ frame
  apart : frame.IsChain fun c c' => ¬ (c.isText = true ∧ c'.isText = true)

variable {c : Command} {frame frame' : Frame} {cs : List Char}

theorem Command.isText_iff : c.isText = true ↔ ∃ content, c = .text content := by
  cases c <;> simp [Command.isText]

theorem put_of_not_text (hc : c.isText = false) : put c frame = c :: frame := by
  cases c <;> first | rfl | cases hc

theorem put_text {content : String} (hhead : ∀ next ∈ frame.head?, next.isText = false) :
    put (.text content) frame = if content = "" then frame else .text content :: frame := by
  cases frame with
  | nil => rfl
  | cons next rest =>
    have hnext := hhead next rfl
    cases next <;> first | rfl | cases hnext

theorem Joins.cons (h : Joins frame frame') (c : Command) : Joins (c :: frame) (c :: frame') := by
  cases h with
  | join before after content more => exact .join (c :: before) after content more
  | drop before after => exact .drop (c :: before) after

theorem put_joins (c : Command) (frame : Frame) :
    ReflTransGen Joins (c :: frame) (put c frame) := by
  fun_cases put c frame with
  | case1 content more rest => exact .single (.join [] rest content more)
  | case2 frame _ => exact .single (.drop [] frame)
  | case3 => exact .refl
  | case4 => exact .refl

theorem merged_joins (frame : Frame) : ReflTransGen Joins frame (merged frame) := by
  induction frame with
  | nil => exact .refl
  | cons c frame ih => exact (ih.lift (c :: ·) fun _ _ h => h.cons c).trans (put_joins c _)

theorem Parted.put (h : Parted frame) (c : Command) : Parted (put c frame) := by
  obtain ⟨hfilled, hapart⟩ := h
  fun_cases Screen.put c frame with
  | case1 content more rest =>
    have hmore : more ≠ "" := by
      rintro rfl
      exact hfilled List.mem_cons_self
    refine ⟨?_, List.isChain_cons.2 (List.isChain_cons.1 hapart)⟩
    simpa [hmore] using fun hmem => hfilled (List.mem_cons_of_mem _ hmem)
  | case2 => exact ⟨hfilled, hapart⟩
  | case3 content frame hhead hcontent =>
    refine ⟨by simpa [Ne.symm hcontent] using hfilled, hapart.cons ?_⟩
    rintro next hnext ⟨_, htext⟩
    obtain ⟨rest, rfl⟩ := List.head?_eq_some_iff.1 hnext
    obtain ⟨more, rfl⟩ := Command.isText_iff.1 htext
    exact hhead more rest rfl
  | case4 c frame _ hc =>
    refine ⟨?_, hapart.cons ?_⟩
    · simpa using ⟨fun hempty => hc _ hempty.symm, hfilled⟩
    · rintro next _ ⟨htext, _⟩
      obtain ⟨content, rfl⟩ := Command.isText_iff.1 htext
      exact hc content rfl

theorem merged_parted (frame : Frame) : Parted (merged frame) := by
  induction frame with
  | nil => exact ⟨List.not_mem_nil, .nil⟩
  | cons c frame ih => exact ih.put c

theorem encode_cons (c : Command) (frame : Frame) :
    encode (c :: frame) = c.encode ++ encode frame := String.join_cons

theorem encode_singleton (c : Command) : encode [c] = c.encode := by
  rw [encode_cons]
  exact String.append_empty

theorem encode_append (frame frame' : Frame) :
    encode (frame ++ frame') = encode frame ++ encode frame' := by
  rw [encode, List.map_append, String.join_append]
  rfl

/-- The written form does not show where one text ends and the next begins. -/
theorem Joins.encode_eq (h : Joins frame frame') : encode frame = encode frame' := by
  cases h with
  | join before after content more =>
    simp only [encode_append, encode_cons, Command.encode, Write.encode, String.append_assoc]
  | drop before after =>
    simp only [encode_append, encode_cons, Command.encode, Write.encode, String.empty_append]

theorem Joins.controls_eq (h : Joins frame frame') :
    frame.filter (!·.isText) = frame'.filter (!·.isText) := by
  cases h with
  | join before after content more => simp [Command.isText]
  | drop before after => simp [Command.isText]

theorem eq_of_joins {α : Type} {f : Frame → α} (hf : ∀ {g g'}, Joins g g' → f g = f g')
    (h : ReflTransGen Joins frame frame') : f frame = f frame' := by
  induction h with
  | refl => rfl
  | tail _ hlast ih => exact ih.trans (hf hlast)

/-! ## The numbers of a sequence -/

theorem toList_parameters (values : List Nat) :
    (parameters values).toList = [';'].intercalate (values.map (Nat.toDigits 10)) := by
  rw [parameters, String.toList_intercalate, List.map_map]
  congr 1
  exact List.map_congr_left fun n _ => Nat.toList_repr

theorem isParameter_digit {n : Nat} {c : Char} (hc : c ∈ Nat.toDigits 10 n) :
    isParameter c = true ∧ c ≠ ';' := by
  have hdigit := Nat.isDigit_of_mem_toDigits (by decide) (by decide) hc
  obtain ⟨hlow, hhigh⟩ := Char.isDigit_iff_toNat.1 hdigit
  refine ⟨?_, ?_⟩
  · simp only [isParameter, Bool.and_eq_true, decide_eq_true_eq]
    exact ⟨hlow, hhigh.trans (by decide)⟩
  · rintro rfl
    exact absurd hhigh (by decide)

theorem isParameter_parameters (values : List Nat) :
    ∀ c ∈ (parameters values).toList, isParameter c = true := by
  rw [toList_parameters]
  induction values with
  | nil => exact fun c hc => nomatch hc
  | cons n rest ih =>
    cases rest with
    | nil =>
      intro c hc
      simp only [List.map_cons, List.map_nil, List.intercalate_singleton] at hc
      exact (isParameter_digit hc).1
    | cons m rest =>
      intro c hc
      simp only [List.map_cons, List.intercalate_cons_cons, List.mem_append,
        List.mem_singleton] at hc
      obtain (hc | rfl) | hc := hc
      · exact (isParameter_digit hc).1
      · decide
      · exact ih c hc

theorem numbers?_parameters {values : List Nat} (hvalues : values ≠ []) :
    numbers? (parameters values).toList = some values := by
  have hsplit : (parameters values).toList.splitOn ';' = values.map (Nat.toDigits 10) := by
    rw [toList_parameters]
    refine List.splitOn_intercalate _ ?_ (by simpa using hvalues)
    intro digits hdigits hmem
    obtain ⟨n, _, rfl⟩ := List.mem_map.1 hdigits
    exact (isParameter_digit hmem).2 rfl
  have hdigits : ∀ n, (if (Nat.toDigits 10 n).all Char.isDigit then
      some (Nat.ofDigitChars 10 (Nat.toDigits 10 n) 0) else none) = some n := by
    intro n
    rw [if_pos, Nat.ofDigitChars_toDigits (by decide) (by decide)]
    exact List.all_eq_true.2 fun c hc => Nat.isDigit_of_mem_toDigits (by decide) (by decide) hc
  rw [numbers?, hsplit, List.mapM_map]
  simp only [Function.comp_def, hdigits]
  exact List.mapM_pure.trans (congrArg some (List.map_id values))

/-! ## The sequence of a command -/

/-- Commands that can be told from their written form. -/
def Command.Readable : Command → Prop
  | .text content => escape ∉ content.toList
  | .turnOn code => code ≠ 0
  | _ => True

/-- A command is written as the sequence of a body and a last character. -/
structure Command.WrittenAs (c : Command) (body : List Char) (last : Char) : Prop where
  written : c.encode.toList = escape :: '[' :: (body ++ [last])
  middle : ∀ p ∈ body, isParameter p = true
  ends : isParameter last = false ∧ last ≠ escape
  read : Command.ofSequence? body last = some c

theorem toList_sequence (body : String) :
    (sequence body).toList = escape :: '[' :: body.toList := by
  rw [sequence, String.toList_append]
  rfl

theorem Command.WrittenAs.numbers {values : List Nat} {letter : String} {last : Char}
    (hencode : c.encode = sequence (parameters values ++ letter)) (hletter : letter.toList = [last])
    (hvalues : values ≠ []) (hlast : isParameter last = false ∧ last ≠ escape)
    (hread : Command.ofNumbers? values last = some c) :
    c.WrittenAs (parameters values).toList last where
  written := by rw [hencode, toList_sequence, String.toList_append, hletter]
  middle := isParameter_parameters values
  ends := hlast
  read := by
    rw [Command.ofSequence?, numbers?_parameters hvalues]
    exact hread

theorem Command.Readable.writtenAs (hc : c.Readable) (htext : c.isText = false) :
    ∃ body last, c.WrittenAs body last := by
  have hm : isParameter 'm' = false ∧ 'm' ≠ escape := by decide
  cases c with
  | text => cases htext
  | moveTo x y =>
    exact ⟨_, 'H', .numbers rfl rfl (List.cons_ne_nil _ _) (by decide) rfl⟩
  | hideCursor => exact ⟨['?', '2', '5'], 'l', rfl, List.all_eq_true.1 rfl, by decide, rfl⟩
  | showCursor => exact ⟨['?', '2', '5'], 'h', rfl, List.all_eq_true.1 rfl, by decide, rfl⟩
  | foreground colour =>
    refine ⟨_, 'm', .numbers rfl rfl (List.cons_ne_nil _ _) hm ?_⟩
    simp [Command.ofNumbers?, Rgb.channels]
  | background colour =>
    refine ⟨_, 'm', .numbers rfl rfl (List.cons_ne_nil _ _) hm ?_⟩
    simp [Command.ofNumbers?, Rgb.channels]
  | turnOn code =>
    refine ⟨_, 'm', .numbers rfl rfl (List.cons_ne_nil _ _) hm ?_⟩
    have hcode : code ≠ 0 := hc
    simp [Command.ofNumbers?]
  | resetAttributes => exact ⟨['0'], 'm', rfl, List.all_eq_true.1 rfl, hm, rfl⟩
  | clearLine => exact ⟨['2'], 'K', rfl, List.all_eq_true.1 rfl, by decide, rfl⟩
  | clearScreen => exact ⟨['2'], 'J', rfl, List.all_eq_true.1 rfl, by decide, rfl⟩

theorem Command.isText_of_ofNumbers? {values : List Nat} {last : Char}
    (h : Command.ofNumbers? values last = some c) : c.isText = false := by
  unfold Command.ofNumbers? at h
  split at h <;> cases h <;> rfl

theorem Command.isText_of_ofSequence? {body : List Char} {last : Char}
    (h : Command.ofSequence? body last = some c) : c.isText = false := by
  unfold Command.ofSequence? at h
  split at h
  · exact Command.isText_of_ofNumbers? h
  · split_ifs at h <;> cases h <;> rfl

/-! ## Reading what was written -/

theorem splitOn_append (hcs : escape ∉ cs) (s : List Char) :
    (cs ++ s).splitOn escape = (s.splitOn escape).modifyHead (cs ++ ·) := by
  induction cs with
  | nil => exact (congrFun List.modifyHead_id _).symm
  | cons c cs ih =>
    obtain ⟨hc, hcs⟩ := not_or.1 (mt List.mem_cons.2 hcs)
    have hne : (c == escape) = false := beq_false_of_ne (Ne.symm hc)
    rw [List.cons_append, List.splitOn_cons_eq_if_modifyHead, hne, ih hcs]
    cases s.splitOn escape <;> rfl

theorem decode?_eq {first : List Char} {later : List (List Char)}
    (h : cs.splitOn escape = first :: later) :
    decode? cs = (later.mapM segment?).map (plainText first ++ ·.flatten) := by
  rw [decode?, h]

/-- The sequence of a command is read as that command, whatever comes after. -/
theorem Command.WrittenAs.decode {body : List Char} {last : Char} (h : c.WrittenAs body last)
    (s : List Char) : decode? (c.encode.toList ++ s) = (decode? s).map (c :: ·) := by
  obtain ⟨first, later, hs⟩ := List.exists_cons_of_ne_nil (List.splitOn_ne_nil escape s)
  have hfree : escape ∉ '[' :: (body ++ [last]) := by
    simp only [List.mem_cons, List.mem_append, List.not_mem_nil, or_false, not_or]
    exact ⟨by decide, fun hmem => absurd (h.middle _ hmem) (by decide), Ne.symm h.ends.2⟩
  have hsplit : (c.encode.toList ++ s).splitOn escape =
      [] :: ('[' :: (body ++ last :: first)) :: later := by
    rw [h.written, List.cons_append, List.splitOn_cons_eq_if_modifyHead,
      if_pos (beq_self_eq_true _), splitOn_append hfree, hs]
    simp
  have hsegment : segment? ('[' :: (body ++ last :: first)) = some (c :: plainText first) := by
    have hends : ¬ isParameter last = true := by simp [h.ends.1]
    rw [segment?, List.dropWhile_append_of_pos h.middle, List.takeWhile_append_of_pos h.middle,
      List.dropWhile_cons_of_neg hends, List.takeWhile_cons_of_neg hends, List.append_nil]
    simp only [h.read, Option.map_some]
  rw [decode?_eq hsplit, decode?_eq hs, List.mapM_cons, hsegment]
  cases later.mapM segment? <;> rfl

theorem head_of_segments {later : List (List Char)} {frames : List Frame}
    (h : later.mapM segment? = some frames) :
    ∀ next ∈ frames.flatten.head?, next.isText = false := by
  cases later with
  | nil =>
    cases h
    exact fun next hnext => nomatch hnext
  | cons piece later =>
    rw [List.mapM_cons] at h
    obtain ⟨frame, hframe, h⟩ := Option.bind_eq_some_iff.1 h
    obtain ⟨rest, _, h⟩ := Option.bind_eq_some_iff.1 h
    cases h
    unfold segment? at hframe
    split at hframe
    · split at hframe
      · cases hframe
      · obtain ⟨c, hc, rfl⟩ := Option.map_eq_some_iff.1 hframe
        rintro next ⟨⟩
        exact Command.isText_of_ofSequence? hc
    · cases hframe

theorem plainText_append (cs first : List Char) {rest : Frame}
    (hrest : ∀ next ∈ rest.head?, next.isText = false) :
    plainText (cs ++ first) ++ rest = put (.text (String.ofList cs)) (plainText first ++ rest) := by
  cases first with
  | nil =>
    rw [List.append_nil, plainText, plainText, if_pos rfl, List.nil_append, put_text hrest]
    by_cases hcs : cs = []
    · rw [if_pos hcs, if_pos (by rw [hcs]), List.nil_append]
    · rw [if_neg hcs, if_neg (by simpa using hcs), List.singleton_append]
  | cons c first =>
    rw [plainText, plainText, if_neg (by simp), if_neg (by simp), String.ofList_append]
    rfl

/-- Characters in front of a written form become a text in front of what it is read as. -/
theorem decode?_text (hcs : escape ∉ cs) (s : List Char) :
    decode? (cs ++ s) = (decode? s).map (put (.text (String.ofList cs))) := by
  obtain ⟨first, later, hs⟩ := List.exists_cons_of_ne_nil (List.splitOn_ne_nil escape s)
  have hsplit : (cs ++ s).splitOn escape = (cs ++ first) :: later := by
    rw [splitOn_append hcs, hs]
    rfl
  rw [decode?_eq hsplit, decode?_eq hs]
  cases hlater : later.mapM segment? with
  | none => rfl
  | some frames =>
    exact congrArg some (plainText_append cs first (head_of_segments hlater))

/-- A frame of readable commands is read from its written form, with its texts put together. -/
theorem decode?_encode (hframe : ∀ c ∈ frame, c.Readable) :
    decode? (encode frame).toList = some (merged frame) := by
  induction frame with
  | nil => rfl
  | cons c frame ih =>
    obtain ⟨hc, hrest⟩ := List.forall_mem_cons.1 hframe
    rw [encode_cons, String.toList_append]
    cases htext : c.isText with
    | false =>
      obtain ⟨body, last, hwritten⟩ := hc.writtenAs htext
      rw [hwritten.decode, ih hrest, Option.map_some, ← put_of_not_text htext]
      rfl
    | true =>
      obtain ⟨content, rfl⟩ := Command.isText_iff.1 htext
      rw [Command.encode, Write.encode, decode?_text hc, ih hrest, String.ofList_toList]
      rfl

/-! ## What is appended to the output -/

/-- The bits of a style's modifiers that stand for an attribute, and the codes of the attributes. -/
def attributeBits : List (Nat × Nat) := [(0, 1), (1, 2), (2, 3), (3, 4), (5, 7)]

namespace Write

/-- The commands that a call stands for. A style is a reset, its attributes, and its colours. -/
def commands : Write → Frame
  | text content => [.text content]
  | moveTo x y => [.moveTo x y]
  | hideCursor => [.hideCursor]
  | showCursor => [.showCursor]
  | foreground colour => [.foreground colour]
  | background colour => [.background colour]
  | style s =>
    let asked := attributeBits.filter fun (bit, _) => s.modifiers.bits.toNat.testBit bit
    [.resetAttributes] ++ asked.map (fun (_, code) => .turnOn code)
      ++ (s.foreground.map .foreground).toList ++ (s.background.map .background).toList
  | resetAttributes => [.resetAttributes]
  | clearLine => [.clearLine]
  | clearScreen => [.clearScreen]

/-- The call writes no escape character other than those of its sequences. -/
def EscapeFree : Write → Prop
  | text content => escape ∉ content.toList
  | _ => True

instance : DecidablePred EscapeFree
  | text content => inferInstanceAs (Decidable (escape ∉ content.toList))
  | moveTo .. | hideCursor | showCursor | foreground _ | background _ | style _
  | resetAttributes | clearLine | clearScreen => isTrue trivial

end Write

theorem codes_eq (m : Modifiers) :
    m.codes = (attributeBits.filter fun (bit, _) => m.bits.toNat.testBit bit).map (·.2) := by
  have hall : ∀ n < 256, (Modifiers.mk (UInt8.ofNat n)).codes =
      (attributeBits.filter fun (bit, _) => n.testBit bit).map (·.2) := by decide +kernel
  have hbits := hall m.bits.toNat m.bits.toNat_lt
  rwa [UInt8.ofNat_toNat] at hbits

theorem commands_style (s : Style) : (Write.style s).commands = s.commands := by
  rw [Write.commands, Style.commands, codes_eq, List.map_map]
  rfl

/-- A call adds the written form of the commands that it stands for. -/
theorem Write.encode_eq (w : Write) : w.encode = Screen.encode w.commands := by
  cases w with
  | style s =>
    rw [commands_style, Style.commands, encode_append, encode_append, encode_cons]
    have hcodes : Screen.encode (s.modifiers.codes.map Command.turnOn) =
        String.join (s.modifiers.codes.map rendition) := by
      rw [Screen.encode, List.map_map]
      rfl
    rw [hcodes]
    rcases s with ⟨_ | foreground, _ | background, modifiers⟩
    · rfl
    · rfl
    · rfl
    · rfl
  | _ => rw [Write.commands, encode_singleton, Command.encode]

/-- The commands of calls, one call after the other. -/
def commands (ws : List Write) : Frame := ws.flatMap Write.commands

variable {ws : List Write}

theorem output_eq (ws : List Write) : output ws = (encode (commands ws)).toUTF8 := by
  have hall : ∀ bytes, ws.foldl Write.append bytes = bytes ++ (encode (commands ws)).toUTF8 := by
    induction ws with
    | nil => exact fun bytes => ByteArray.append_empty.symm
    | cons w ws ih =>
      intro bytes
      have hcommands : commands (w :: ws) = w.commands ++ commands ws := List.flatMap_cons
      rw [List.foldl_cons, ih, Write.append, w.encode_eq, ByteArray.append_assoc, hcommands,
        encode_append]
      exact congrArg (bytes ++ ·) String.toByteArray_append.symm
  exact (hall _).trans ByteArray.empty_append

theorem ofBytes?_toUTF8 (s : String) : Frame.ofBytes? s.toUTF8 = decode? s.toList := by
  have hs : String.fromUTF8? s.toUTF8 = some s := dif_pos s.isValidUTF8
  rw [Frame.ofBytes?, hs]
  rfl

theorem code_ne_zero {m : Modifiers} {code : Nat} (h : code ∈ m.codes) : code ≠ 0 := by
  obtain ⟨⟨flag, known⟩, hmem, h⟩ := List.mem_filterMap.1 h
  simp only [Option.ite_none_right_eq_some, Option.some.injEq] at h
  obtain ⟨_, rfl⟩ := h
  simp only [List.mem_cons, Prod.mk.injEq, List.not_mem_nil, or_false] at hmem
  omega

theorem Write.EscapeFree.readable {w : Write} (hw : w.EscapeFree) :
    ∀ c ∈ w.commands, c.Readable := by
  cases w with
  | text content => exact List.forall_mem_singleton.2 hw
  | style s =>
    intro c hc
    rw [commands_style] at hc
    simp only [Style.commands, List.mem_append, List.mem_cons, List.mem_map,
      Option.mem_toList, Option.map_eq_some_iff] at hc
    obtain ((rfl | ⟨code, hcode, rfl⟩) | ⟨_, _, rfl⟩) | ⟨_, _, rfl⟩ := hc
    · trivial
    · exact code_ne_zero hcode
    · trivial
    · trivial
  | _ => simp [Write.commands, Command.Readable]

theorem Reading.read_controls_pen (frame : Frame) (r r' : Reading) (hpen : r.pen = r'.pen) :
    (r.read frame).pen = (r'.read (frame.filter (!·.isText))).pen := by
  induction frame generalizing r r' with
  | nil => exact hpen
  | cons c frame ih =>
    cases c with
    | text content => exact ih _ _ hpen
    | moveTo x y => exact ih _ _ hpen
    | _ => exact ih _ _ (by simp [Reading.next, hpen])

theorem Reading.read_merged_pen (r : Reading) (frame : Frame) :
    (r.read (merged frame)).pen = (r.read frame).pen := by
  rw [read_controls_pen _ r r rfl, read_controls_pen frame r r rfl,
    eq_of_joins Joins.controls_eq (merged_joins frame)]

theorem ofBytes?_output (hws : ∀ w ∈ ws, w.EscapeFree) :
    Frame.ofBytes? (output ws) = some (merged (commands ws)) := by
  rw [output_eq, ofBytes?_toUTF8]
  refine decode?_encode fun c hc => ?_
  obtain ⟨w, hw, hc⟩ := List.mem_flatMap.1 hc
  exact (hws w hw).readable c hc

/-- The output tells what was written to it.

Where no text contains an escape character, the bytes are read back as the commands of all calls, in
their order, with adjacent texts as one text and no empty ones; so every position and every colour
is read as it was given. Two sequences of calls have the same output exactly if joining texts makes
their commands the same. And whatever was written before a style, or was in force before that, the
colours and attributes that are in force after it are those of the style. -/
theorem output_decodes (hws : ∀ w ∈ ws, w.EscapeFree) :
    (Frame.ofBytes? (output ws) = some (merged (commands ws)) ∧
      ReflTransGen Joins (commands ws) (merged (commands ws)) ∧
      Parted (merged (commands ws)) ∧
      (merged (commands ws)).filter (!·.isText) = (commands ws).filter (!·.isText)) ∧
    (∀ ws', (∀ w ∈ ws', w.EscapeFree) →
      (output ws = output ws' ↔ Join (ReflTransGen Joins) (commands ws) (commands ws'))) ∧
    ∀ s : Style, ∃ frame, Frame.ofBytes? (output (ws ++ [.style s])) = some frame ∧
      ∀ r : Reading, (r.read frame).pen = s.pen := by
  refine ⟨⟨ofBytes?_output hws, merged_joins _, merged_parted _,
    (eq_of_joins Joins.controls_eq (merged_joins _)).symm⟩, fun ws' hws' => ⟨?_, ?_⟩, fun s => ?_⟩
  · intro hsame
    have hmerged : merged (commands ws) = merged (commands ws') := by
      rw [← Option.some_inj, ← ofBytes?_output hws, ← ofBytes?_output hws', hsame]
    exact ⟨_, merged_joins _, hmerged ▸ merged_joins _⟩
  · rintro ⟨frame, hjoins, hjoins'⟩
    rw [output_eq, output_eq, eq_of_joins Joins.encode_eq hjoins,
      eq_of_joins Joins.encode_eq hjoins']
  · have hall : ∀ w ∈ ws ++ [.style s], w.EscapeFree := by
      simpa [or_imp, forall_and] using ⟨hws, trivial⟩
    refine ⟨_, ofBytes?_output hall, fun r => ?_⟩
    have hcommands : commands (ws ++ [.style s]) = commands ws ++ s.commands := by
      rw [commands, List.flatMap_append, List.flatMap_singleton, commands_style]
      rfl
    rw [Reading.read_merged_pen, hcommands, Reading.read_append, Reading.read_style]

/-- Every kind of call, with texts that look like parts of sequences, the last cell there is, and a
style with bits that stand for no attribute. -/
theorem output_decodes_lookalikes :
    let calls : List Write :=
      [.text "a", .text "", .text "[0m", .moveTo maxCell maxCell, .text "1;1H",
        .style ⟨some ⟨255, 0, 9⟩, some ⟨10, 20, 30⟩, ⟨0xD5⟩⟩, .hideCursor, .foreground ⟨0, 99, 100⟩,
        .text "m", .background ⟨1, 2, 3⟩, .clearLine, .resetAttributes, .clearScreen, .showCursor]
    output calls =
        ("a[0m\u001b[65536;65536H1;1H" ++
          "\u001b[0m\u001b[1m\u001b[3m\u001b[38;2;255;0;9m\u001b[48;2;10;20;30m" ++
          "\u001b[?25l\u001b[38;2;0;99;100mm\u001b[48;2;1;2;3m" ++
          "\u001b[2K\u001b[0m\u001b[2J\u001b[?25h").toUTF8 ∧
      Frame.ofBytes? (output calls) =
        some [.text "a[0m", .moveTo maxCell maxCell, .text "1;1H", .resetAttributes, .turnOn 1,
          .turnOn 3, .foreground ⟨255, 0, 9⟩, .background ⟨10, 20, 30⟩, .hideCursor,
          .foreground ⟨0, 99, 100⟩, .text "m", .background ⟨1, 2, 3⟩, .clearLine, .resetAttributes,
          .clearScreen, .showCursor] :=
  ⟨by decide +kernel, (output_decodes (by decide)).1.1⟩

end ListWindow.Screen
