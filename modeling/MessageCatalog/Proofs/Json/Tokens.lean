import MessageCatalog.Json.Printer
import MessageCatalog.Json.Token
import MessageCatalog.Proofs.Json.Reading
import MessageCatalog.Proofs.Number.WireText

/-!
The tokens of written documents. Read from left to right, the text of a value adds just the tokens
of that value to those before it, and leaves the lexer ready for a comma, a colon or a closing
bracket.
-/

namespace MessageCatalog.Json

open Text

section Strings

/-- A character is written with a short escape, by its number, or as itself. -/
theorem escape_cases (c : Char) :
    (∃ mark, escape c = ['\\', mark] ∧ mark ≠ 'u' ∧ shortEscape? mark = some c) ∨
      (c.toNat < 0x20 ∧ escape c = '\\' :: 'u' :: hexText 4 c.toNat) ∨
        (escape c = [c] ∧ c ≠ '"' ∧ c ≠ '\\' ∧ ¬ c.toNat < 0x20) := by
  unfold escape
  split_ifs with quote backslash backspace feed newline carriage tab control
  · exact Or.inl ⟨'"', rfl, by decide, by rw [quote]; rfl⟩
  · exact Or.inl ⟨'\\', rfl, by decide, by rw [backslash]; rfl⟩
  · exact Or.inl ⟨'b', rfl, by decide, by rw [backspace]; rfl⟩
  · exact Or.inl ⟨'f', rfl, by decide, by rw [feed]; rfl⟩
  · exact Or.inl ⟨'n', rfl, by decide, by rw [newline]; rfl⟩
  · exact Or.inl ⟨'r', rfl, by decide, by rw [carriage]; rfl⟩
  · exact Or.inl ⟨'t', rfl, by decide, by rw [tab]; rfl⟩
  · exact Or.inr (Or.inl ⟨control, rfl⟩)
  · exact Or.inr (Or.inr ⟨rfl, quote, backslash, control⟩)

theorem readDigits?_hexText {code : Nat} (control : code < 0x20) :
    readDigits? 16 (hexText 4 code) = some code := by
  exact (by decide : ∀ code < 0x20, readDigits? 16 (hexText 4 code) = some code) code control

theorem hexText_four (code : Nat) : ∃ a b c d, hexText 4 code = [a, b, c, d] :=
  List.length_eq_four.mp (hexText_length 4 code)

theorem escapesFit_short {mark plain : Char} (notNumber : mark ≠ 'u')
    (read : shortEscape? mark = some plain) (rest : List Char) :
    escapesFit ('\\' :: mark :: rest) = escapesFit rest := by
  rw [escapesFit, read]
  · rfl
  · intro a b c d others same
    exact absurd same notNumber

theorem escapesFit_plain {c : Char} (notEscape : c ≠ '\\') (rest : List Char) :
    escapesFit (c :: rest) = escapesFit rest := by
  rw [escapesFit]
  all_goals
    intros
    contradiction

theorem escapesFit_escape (c : Char) (rest : List Char) :
    escapesFit (escape c ++ rest) = escapesFit rest := by
  rcases escape_cases c with
      ⟨mark, shape, notNumber, plain⟩ | ⟨control, shape⟩ | ⟨shape, _, notEscape, _⟩
  · rw [shape]
    exact escapesFit_short notNumber plain rest
  · have value := readDigits?_hexText control
    obtain ⟨first, second, third, fourth, digits⟩ := hexText_four c.toNat
    rw [digits] at value
    rw [shape, digits]
    change escapesFit ('\\' :: 'u' :: first :: second :: third :: fourth :: rest) = _
    rw [escapesFit, value]
    rfl
  · rw [shape]
    exact escapesFit_plain notEscape rest

theorem unescape?_short {mark plain : Char} (notNumber : mark ≠ 'u')
    (read : shortEscape? mark = some plain) (rest : List Char) :
    unescape? ('\\' :: mark :: rest) = (unescape? rest).map (plain :: ·) := by
  rw [unescape?, read]
  intro a b c d others same
  exact absurd same notNumber

theorem unescape?_plain {c : Char} (notEscape : c ≠ '\\') (rest : List Char) :
    unescape? (c :: rest) = (unescape? rest).map (c :: ·) := by
  rw [unescape?]
  all_goals
    intros
    contradiction

theorem unescape?_escape (c : Char) (rest : List Char) :
    unescape? (escape c ++ rest) = (unescape? rest).map (c :: ·) := by
  rcases escape_cases c with
      ⟨mark, shape, notNumber, plain⟩ | ⟨control, shape⟩ | ⟨shape, _, notEscape, _⟩
  · rw [shape]
    exact unescape?_short notNumber plain rest
  · have value := readDigits?_hexText control
    have notHigh : isHighSurrogate c.toNat = false := by
      simp only [isHighSurrogate, Bool.and_eq_false_iff, decide_eq_false_iff_not]
      omega
    have notLow : isLowSurrogate c.toNat = false := by
      simp only [isLowSurrogate, Bool.and_eq_false_iff, decide_eq_false_iff_not]
      omega
    obtain ⟨first, second, third, fourth, digits⟩ := hexText_four c.toNat
    rw [digits] at value
    rw [shape, digits]
    change unescape? ('\\' :: 'u' :: first :: second :: third :: fourth :: rest) = _
    rw [unescape?, value]
    simp only [notHigh, notLow, Bool.false_eq_true, if_false, Char.ofNat_toNat]
  · rw [shape]
    exact unescape?_plain notEscape rest

/-- What is written of a text between the quotes is correct and names that text. -/
theorem escapesFit_body (text : List Char) : escapesFit (text.flatMap escape) = true := by
  induction text with
  | nil => rfl
  | cons c rest induction => rw [List.flatMap_cons, escapesFit_escape, induction]

theorem unescape?_body (text : List Char) : unescape? (text.flatMap escape) = some text := by
  induction text with
  | nil => rfl
  | cons c rest induction =>
      rw [List.flatMap_cons, unescape?_escape, induction]
      rfl

/-- A character that stands for itself between quotes. -/
def IsPlain (c : Char) : Prop := c ≠ '"' ∧ c ≠ '\\' ∧ ¬ c.toNat < 0x20

variable {tokens : List Token} {body : List Char}

theorem step_plain {c : Char} (plain : IsPlain c) :
    Lexer.step ⟨tokens, .text body false⟩ c = some ⟨tokens, .text (c :: body) false⟩ := by
  simp [Lexer.step, plain.1, plain.2.1, plain.2.2]

theorem step_backslash :
    Lexer.step ⟨tokens, .text body false⟩ '\\' = some ⟨tokens, .text ('\\' :: body) true⟩ := rfl

theorem step_escaped (c : Char) :
    Lexer.step ⟨tokens, .text body true⟩ c = some ⟨tokens, .text (c :: body) false⟩ := rfl

theorem run_plain {characters : List Char} (plain : ∀ c ∈ characters, IsPlain c) :
    characters.foldlM Lexer.step ⟨tokens, .text body false⟩ =
      some ⟨tokens, .text (characters.reverse ++ body) false⟩ := by
  induction characters generalizing body with
  | nil => rfl
  | cons c rest induction =>
      obtain ⟨first, others⟩ := List.forall_mem_cons.mp plain
      rw [List.foldlM_cons, step_plain first]
      simp only [Option.bind_eq_bind, Option.bind_some, induction others, List.reverse_cons,
        List.append_assoc, List.singleton_append]

theorem hexText_plain {code : Nat} (control : code < 0x20) : ∀ c ∈ hexText 4 code, IsPlain c := by
  have all : ((List.range 0x20).all fun code =>
      (hexText 4 code).all fun c => c != '"' && c != '\\' && !(decide (c.toNat < 0x20))) = true :=
        rfl
  intro c member
  have plain :=
    List.all_eq_true.mp (List.all_eq_true.mp all code (List.mem_range.mpr control)) c member
  simpa [IsPlain, and_assoc] using plain

theorem run_escape (c : Char) :
    (escape c).foldlM Lexer.step ⟨tokens, .text body false⟩ =
      some ⟨tokens, .text ((escape c).reverse ++ body) false⟩ := by
  rcases escape_cases c with ⟨mark, shape, _, _⟩ | ⟨control, shape⟩ | ⟨shape, plain⟩
  · rw [shape]
    rfl
  · rw [shape, List.foldlM_cons, step_backslash]
    simp only [Option.bind_eq_bind, Option.bind_some, List.foldlM_cons, step_escaped]
    rw [run_plain (hexText_plain control)]
    simp
  · rw [shape]
    exact run_plain (List.forall_mem_singleton.mpr plain)

theorem run_body (text : List Char) :
    (text.flatMap escape).foldlM Lexer.step ⟨tokens, .text body false⟩ =
      some ⟨tokens, .text ((text.flatMap escape).reverse ++ body) false⟩ := by
  induction text generalizing body with
  | nil => rfl
  | cons c rest induction =>
      rw [List.flatMap_cons, List.foldlM_append, run_escape]
      simp only [Option.bind_eq_bind, Option.bind_some, induction, List.reverse_append,
        List.append_assoc]

/-- A quoted text is one token. -/
theorem run_quote (text : String) :
    (quote text).foldlM Lexer.step ⟨tokens, .between⟩ =
      some ⟨.text (some text) :: tokens, .between⟩ := by
  have opened : Lexer.step ⟨tokens, .between⟩ '"' = some ⟨tokens, .text [] false⟩ := rfl
  have closed : Lexer.step ⟨tokens, .text ((text.toList.flatMap escape).reverse ++ []) false⟩ '"' =
      some ⟨.text (some text) :: tokens, .between⟩ := by
    simp [Lexer.step, escapesFit_body, unescape?_body]
  rw [quote, List.foldlM_append, List.foldlM_cons, opened]
  simp only [Option.bind_eq_bind, Option.bind_some, run_body, List.foldlM_cons, closed,
    List.foldlM_nil]
  rfl

end Strings

section Numerals

theorem isNumeralChar_of_isDigit {c : Char} (digit : isDigit c = true) :
    isNumeralChar c = true := by
  simp [isNumeralChar, digit]

theorem numeralChars_of_digits {digits : List Char} {signed : Int → Option Int} {power : Option Int}
    (read : ((readDigits? 10 digits).bind fun value => some (value : Int)).map signed =
      some power) :
    ∀ c ∈ digits, isNumeralChar c = true := by
  obtain ⟨_, given, _⟩ := Option.map_eq_some_iff.mp read
  obtain ⟨value, found, _⟩ := Option.bind_eq_some_iff.mp given
  unfold readDigits? at found
  split at found
  · cases found
  · exact fun c member => isNumeralChar_of_isDigit (digitsOnly_of_readDigitsFrom found c member)

theorem numeralChars_of_readPower {text : List Char} {power : Option Int}
    (read : Numeral.readPower text = some power) : ∀ c ∈ text, isNumeralChar c = true := by
  unfold Numeral.readPower at read
  split at read
  · exact List.forall_mem_nil _
  · next mark rest =>
      split at read
      · next marked =>
          have first : isNumeralChar mark = true := by
            simp only [Bool.or_eq_true, decide_eq_true_eq] at marked
            rcases marked with rfl | rfl <;> rfl
          refine List.forall_mem_cons.mpr ⟨first, ?_⟩
          split at read
          · exact List.forall_mem_cons.mpr ⟨rfl, numeralChars_of_digits read⟩
          · exact List.forall_mem_cons.mpr ⟨rfl, numeralChars_of_digits read⟩
          · exact numeralChars_of_digits read
      · cases read

theorem numeralChars_of_parts {text : List Char}
    (behind : ∀ c ∈ text.dropWhile isDigit, isNumeralChar c = true) :
    ∀ c ∈ text, isNumeralChar c = true := by
  intro c member
  rw [← List.takeWhile_append_dropWhile (p := isDigit) (l := text), List.mem_append] at member
  rcases member with digit | further
  · exact isNumeralChar_of_isDigit (List.mem_takeWhile_imp digit)
  · exact behind c further

theorem numeralChars_of_ofUnsigned? {negative : Bool} {text : List Char} {numeral : Numeral}
    (parsed : Numeral.ofUnsigned? negative text = some numeral) :
    ∀ c ∈ text, isNumeralChar c = true := by
  apply numeralChars_of_parts
  unfold Numeral.ofUnsigned? at parsed
  dsimp only at parsed
  split at parsed
  · next rest shape =>
      obtain ⟨power, read, _⟩ := Option.map_eq_some_iff.mp parsed
      rw [shape]
      exact List.forall_mem_cons.mpr ⟨rfl, numeralChars_of_parts (numeralChars_of_readPower read)⟩
  · obtain ⟨power, read, _⟩ := Option.map_eq_some_iff.mp parsed
    exact numeralChars_of_readPower read

theorem whole_of_fitsJson {numeral : Numeral} (fits : numeral.fitsJson = true) :
    numeral.whole ≠ [] := by
  intro empty
  rw [Numeral.fitsJson, empty] at fits
  cases fits

theorem ofUnsigned?_of_ofJson? {text : List Char} {numeral : Numeral}
    (parsed : Numeral.ofJson? text = some numeral) :
    ∃ negative magnitude, text = (if negative then '-' :: magnitude else magnitude) ∧
      Numeral.ofUnsigned? negative magnitude = some numeral ∧ numeral.whole ≠ [] := by
  have kept : ∀ found : Numeral, (if found.fitsJson then some found else none) = some numeral →
      found = numeral ∧ numeral.whole ≠ [] := by
    intro found accepted
    obtain ⟨fits, same⟩ := Option.ite_none_right_eq_some.mp accepted
    cases same
    exact ⟨rfl, whole_of_fitsJson fits⟩
  unfold Numeral.ofJson? at parsed
  dsimp only at parsed
  split at parsed
  · next magnitude =>
      obtain ⟨found, unsigned, accepted⟩ := Option.bind_eq_some_iff.mp parsed
      obtain ⟨rfl, nonempty⟩ := kept found accepted
      exact ⟨true, magnitude, rfl, unsigned, nonempty⟩
  · obtain ⟨found, unsigned, accepted⟩ := Option.bind_eq_some_iff.mp parsed
    obtain ⟨rfl, nonempty⟩ := kept found accepted
    exact ⟨false, text, rfl, unsigned, nonempty⟩

/-- A numeral begins with a minus sign or a digit and goes on with numeral characters. -/
theorem shape_of_ofJson? {text : List Char} {numeral : Numeral}
    (parsed : Numeral.ofJson? text = some numeral) :
    ∃ first rest, text = first :: rest ∧ (first = '-' ∨ isDigit first = true) ∧
      ∀ c ∈ rest, isNumeralChar c = true := by
  obtain ⟨negative, magnitude, rfl, unsigned, nonempty⟩ := ofUnsigned?_of_ofJson? parsed
  have characters := numeralChars_of_ofUnsigned? unsigned
  cases negative with
  | true => exact ⟨'-', magnitude, rfl, Or.inl rfl, characters⟩
  | false =>
      rw [Numeral.whole_of_ofUnsigned? unsigned] at nonempty
      cases magnitude with
      | nil => exact absurd rfl nonempty
      | cons first rest =>
          have digit : isDigit first = true := by
            by_contra other
            exact nonempty (List.takeWhile_cons_of_neg other)
          exact ⟨first, rest, rfl, Or.inr digit, (List.forall_mem_cons.mp characters).2⟩

variable {tokens : List Token}

theorem begin_numeral {c : Char} (starts : c = '-' ∨ isDigit c = true) :
    Lexer.begin tokens c = some ⟨tokens, .numeral [c]⟩ := by
  have other : ∀ mark, (mark ≠ '-' ∧ isDigit mark = false) → c ≠ mark := by
    intro mark apart same
    rcases starts with minus | digit
    · exact apart.1 (same.symm.trans minus)
    · rw [same, apart.2] at digit
      cases digit
  have notBlank : isBlank c = false := by
    simp only [isBlank, Bool.or_eq_false_iff, beq_eq_false_iff_ne]
    refine ⟨⟨⟨?_, ?_⟩, ?_⟩, ?_⟩ <;> exact other _ (by decide)
  have numeral : (decide (c = '-') || isDigit c) = true := by simpa using starts
  rw [Lexer.begin, notBlank, if_neg (by simp), if_neg (other _ (by decide)),
    if_neg (other _ (by decide)), if_neg (other _ (by decide)), if_neg (other _ (by decide)),
    if_neg (other _ (by decide)), if_neg (other _ (by decide)), if_neg (other _ (by decide)),
    if_pos numeral]

theorem run_numeralChars {characters : List Char} (each : ∀ c ∈ characters, isNumeralChar c = true)
    (before : List Char) : characters.foldlM Lexer.step ⟨tokens, .numeral before⟩ =
      some ⟨tokens, .numeral (characters.reverse ++ before)⟩ := by
  induction characters generalizing before with
  | nil => rfl
  | cons c rest induction =>
      obtain ⟨first, others⟩ := List.forall_mem_cons.mp each
      have stepped : Lexer.step ⟨tokens, .numeral before⟩ c =
          some ⟨tokens, .numeral (c :: before)⟩ := if_pos first
      rw [List.foldlM_cons, stepped]
      simp only [Option.bind_eq_bind, Option.bind_some, induction others, List.reverse_cons,
        List.append_assoc, List.singleton_append]

theorem run_numeral {text : List Char} {numeral : Numeral}
    (parsed : Numeral.ofJson? text = some numeral) :
    text.foldlM Lexer.step ⟨tokens, .between⟩ = some ⟨tokens, .numeral text.reverse⟩ := by
  obtain ⟨first, rest, rfl, starts, others⟩ := shape_of_ofJson? parsed
  have begun : Lexer.step ⟨tokens, .between⟩ first = some ⟨tokens, .numeral [first]⟩ :=
    begin_numeral starts
  rw [List.foldlM_cons, begun, List.reverse_cons]
  exact run_numeralChars others [first]

end Numerals

/-- The lexer holds these tokens once what it is reading has ended, and goes on from there when a
comma, a colon or a bracket follows. -/
structure Lexer.Holds (lexer : Lexer) (tokens : List Token) : Prop where
  settled : lexer.settle = some ⟨tokens, .between⟩
  delimited :
    ∀ c, isNumeralChar c = false → isWordChar c = false → lexer.step c = Lexer.begin tokens c

/-- The text is read as these tokens, whatever stands before it. -/
def Lexes (text : List Char) (written : List Token) : Prop :=
  ∀ tokens, ∃ lexer, text.foldlM Lexer.step ⟨tokens, .between⟩ = some lexer ∧
    lexer.Holds (written.reverse ++ tokens)

theorem Lexer.holds_between (tokens : List Token) : Holds ⟨tokens, .between⟩ tokens :=
  ⟨rfl, fun _ _ _ => rfl⟩

theorem lexes_nil : Lexes [] [] := fun tokens => ⟨_, rfl, Lexer.holds_between tokens⟩

theorem lexes_quote (text : String) : Lexes (quote text) [.text (some text)] :=
  fun _ => ⟨_, run_quote text, Lexer.holds_between _⟩

theorem lexes_numeral {text : List Char} {numeral : Numeral}
    (parsed : Numeral.ofJson? text = some numeral) :
    Lexes text [.number numeral] := by
  intro tokens
  have settled : Lexer.settle ⟨tokens, .numeral text.reverse⟩ =
      some ⟨.number numeral :: tokens, .between⟩ := by
    simp [Lexer.settle, parsed]
  refine ⟨_, run_numeral parsed, settled, ?_⟩
  intro c notNumeral _
  simp [Lexer.step, notNumeral, settled]

theorem lexes_word {text : List Char} {token : Token} (known : word? text = some token)
    (run : ∀ tokens,
      text.foldlM Lexer.step ⟨tokens, .between⟩ = some ⟨tokens, .word text.reverse⟩) :
    Lexes text [token] := by
  intro tokens
  have settled : Lexer.settle ⟨tokens, .word text.reverse⟩ = some ⟨token :: tokens, .between⟩ := by
    simp [Lexer.settle, known]
  refine ⟨_, run tokens, settled, ?_⟩
  intro c _ notWord
  simp [Lexer.step, notWord, settled]

/-- A character that is a token by itself and ends numerals and words. -/
structure Punctuates (c : Char) (token : Token) : Prop where
  notNumeral : isNumeralChar c = false
  notWord : isWordChar c = false
  begins : ∀ tokens, Lexer.begin tokens c = some ⟨token :: tokens, .between⟩

theorem Lexes.punctuated {left right : List Char} {before after : List Token} {c : Char}
    {token : Token} (lexed : Lexes left before) (mark : Punctuates c token)
    (onward : Lexes right after) :
    Lexes (left ++ c :: right) (before ++ token :: after) := by
  intro tokens
  obtain ⟨lexer, run, holds⟩ := lexed tokens
  obtain ⟨last, further, finally_holds⟩ := onward (token :: (before.reverse ++ tokens))
  refine ⟨last, ?_, ?_⟩
  · rw [List.foldlM_append, run]
    simp only [Option.bind_eq_bind, Option.bind_some, List.foldlM_cons,
      holds.delimited c mark.notNumeral mark.notWord, mark.begins]
    exact further
  · simpa using finally_holds

theorem punctuates_comma : Punctuates ',' .comma := ⟨rfl, rfl, fun _ => rfl⟩

theorem punctuates_colon : Punctuates ':' .colon := ⟨rfl, rfl, fun _ => rfl⟩

/-- What stands between two brackets. -/
theorem Lexes.enclosed {inside : List Char} {written : List Token} {first last : Char}
    {opening closing : Token} (opens : Punctuates first opening) (lexed : Lexes inside written)
    (closes : Punctuates last closing) :
    Lexes (first :: inside ++ [last]) (opening :: written ++ [closing]) :=
  (lexes_nil.punctuated opens lexed).punctuated closes lexes_nil

/-- The numeral that a number is written as. -/
def numeralOf (value : Number) : Numeral :=
  (Numeral.ofJson? value.wireText.toList).getD ⟨false, [], none, none⟩

mutual

/-- The tokens that a value is written with. -/
def tokensOf : Json → List Token
  | null => [.null]
  | boolean value => [.boolean value]
  | number value => [.number (numeralOf value)]
  | text value => [.text (some value)]
  | array items => .beginArray :: itemTokens items ++ [.endArray]
  | object members => .beginObject :: memberTokens members ++ [.endObject]

def itemTokens : List Json → List Token
  | [] => []
  | [item] => tokensOf item
  | item :: rest => tokensOf item ++ .comma :: itemTokens rest

def memberTokens : List (String × Json) → List Token
  | [] => []
  | [(key, value)] => [.text (some key)] ++ .colon :: tokensOf value
  | (key, value) :: rest =>
      [.text (some key)] ++ .colon :: tokensOf value ++ .comma :: memberTokens rest

end

theorem lexes_items {items : List Json}
    (each : ∀ item ∈ items, Lexes (render item) (tokensOf item)) :
    Lexes (renderItems items) (itemTokens items) := by
  induction items with
  | nil => exact lexes_nil
  | cons item rest induction =>
      obtain ⟨first, others⟩ := List.forall_mem_cons.mp each
      cases rest with
      | nil => exact first
      | cons next more => exact first.punctuated punctuates_comma (induction others)

theorem lexes_members {members : List (String × Json)}
    (each : ∀ member ∈ members, Lexes (render member.2) (tokensOf member.2)) :
    Lexes (renderMembers members) (memberTokens members) := by
  induction members with
  | nil => exact lexes_nil
  | cons member rest induction =>
      obtain ⟨first, others⟩ := List.forall_mem_cons.mp each
      obtain ⟨key, value⟩ := member
      have lexed := (lexes_quote key).punctuated punctuates_colon first
      cases rest with
      | nil => exact lexed
      | cons next more =>
          have both := lexed.punctuated punctuates_comma (induction others)
          simpa only [renderMembers, memberTokens, List.append_assoc, List.cons_append,
            List.nil_append] using both

/-- The text of a value is read as the tokens of that value. -/
theorem lexes_render {value : Json} (sound : value.Sound) :
    Lexes (render value) (tokensOf value) := by
  induction sound with
  | null => exact lexes_word rfl fun _ => rfl
  | boolean value =>
      cases value with
      | true => exact lexes_word rfl fun _ => rfl
      | false => exact lexes_word rfl fun _ => rfl
  | number fits =>
      obtain ⟨numeral, parsed, _⟩ := Number.readsFrom_wireText fits
      have lexed := lexes_numeral parsed
      rw [tokensOf, numeralOf, parsed]
      exact lexed
  | text value => exact lexes_quote value
  | array each induction =>
      exact Lexes.enclosed ⟨rfl, rfl, fun _ => rfl⟩ (lexes_items induction) ⟨rfl, rfl, fun _ => rfl⟩
  | object distinct each induction =>
      exact Lexes.enclosed ⟨rfl, rfl, fun _ => rfl⟩ (lexes_members induction)
        ⟨rfl, rfl, fun _ => rfl⟩

theorem tokens?_render {value : Json} (sound : value.Sound) :
    tokens? (render value) = some (tokensOf value) := by
  obtain ⟨lexer, run, holds⟩ := lexes_render sound []
  have started : (render value).foldlM Lexer.step Lexer.start = some lexer := run
  simp [tokens?, started, holds.settled]

end MessageCatalog.Json
