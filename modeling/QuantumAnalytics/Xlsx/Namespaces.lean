import QuantumAnalytics.Xlsx.XmlLexical

/-!
# Namespace declarations

XML documents as sequences of markup, with the namespace declarations in their start
tags. In an accepted document every declaration of a prefix that the patterns know is
found, and so allowed. The patterns only know ASCII names.
-/

namespace QuantumAnalytics
namespace Xlsx

open PyText (isSpace)
open Regex (isLetter isDigit)

/-! ### Documents -/

/-- White space in tags. -/
def isXmlSpace (c : Char) : Bool := c == ' ' || c == '\t' || c == '\r' || c == '\n'

/-- The other characters than ASCII letters and `_` with which a name may begin. -/
def nameStartRanges : List (Nat × Nat) :=
  [(0xc0, 0xd6), (0xd8, 0xf6), (0xf8, 0x2ff), (0x370, 0x37d), (0x37f, 0x1fff), (0x200c, 0x200d),
    (0x2070, 0x218f), (0x2c00, 0x2fef), (0x3001, 0xd7ff), (0xf900, 0xfdcf), (0xfdf0, 0xfffd),
    (0x10000, 0xeffff)]

/-- Characters with which a name without colons may begin. -/
def isNameStart (c : Char) : Bool :=
  isPrefixStart c || nameStartRanges.any fun (first, last) => first ≤ c.toNat && c.toNat ≤ last

/-- Characters of a name without colons. -/
def isNameChar (c : Char) : Bool :=
  isNameStart c || isPrefixPart c || c.toNat == 0xb7 ||
    [(0x300, 0x36f), (0x203f, 0x2040)].any fun (first, last) =>
      first ≤ c.toNat && c.toNat ≤ last

/-- A name without colons. -/
structure NcName where
  first : Char
  rest : List Char
  isFirst : isNameStart first = true
  isRest : rest.all isNameChar = true

/-- The text of a name. -/
def NcName.chars (name : NcName) : List Char := name.first :: name.rest

/-- A name with or without a namespace prefix. -/
structure QName where
  space : Option NcName
  localName : NcName

/-- The text of a name. -/
def QName.chars (name : QName) : List Char :=
  match name.space with
  | none => name.localName.chars
  | some space => space.chars ++ ':' :: name.localName.chars

/-- White space that may be missing. -/
abbrev XmlSpaces := { text : List Char // text.all isXmlSpace = true }

/-- An attribute, with the white space in front of it. -/
structure XmlAttribute where
  space : XmlSpaces
  name : QName
  beforeSign : XmlSpaces
  afterSign : XmlSpaces
  quote : Char
  /-- As it is written. -/
  value : List Char
  spacePresent : space.1 ≠ []
  isQuote : Xlsx.isQuote quote = true
  closes : quote ∉ value

/-- The text of an attribute behind its white space. -/
def XmlAttribute.assignment (attr : XmlAttribute) : List Char :=
  attr.name.chars ++ (attr.beforeSign.1 ++ '=' :: (attr.afterSign.1 ++
    attr.quote :: (attr.value ++ [attr.quote])))

/-- The text of an attribute. -/
def XmlAttribute.chars (attr : XmlAttribute) : List Char :=
  attr.space.1 ++ attr.assignment

/-- A start tag, or the tag of an empty element. -/
structure StartTag where
  name : QName
  attributes : List XmlAttribute
  space : XmlSpaces
  isEmpty : Bool

/-- The text of a start tag behind `<`. -/
def StartTag.inner (tag : StartTag) : List Char :=
  tag.name.chars ++ (tag.attributes.flatMap XmlAttribute.chars ++ (tag.space.1 ++
    if tag.isEmpty then ['/', '>'] else ['>']))

/-- A piece of a document. -/
inductive Markup
  /-- Character data and references. -/
  | characters (text : List Char) (noTag : '<' ∉ text)
  | cdata (text : List Char) (closes : ¬[']', ']', '>'] <:+: text)
  | comment (text : List Char) (closes : ¬['-', '-'] <:+: text)
  /-- A processing instruction, or the XML declaration. -/
  | instruction (target : NcName) (text : List Char)
    (closes : ¬['?', '>'] <:+: target.chars ++ text)
  | startTag (tag : StartTag)
  | endTag (name : QName) (space : XmlSpaces)

/-- The text of a piece. -/
def Markup.chars : Markup → List Char
  | .characters text _ => text
  | .cdata text _ => '<' :: '!' :: ("[CDATA[".toList ++ text ++ [']', ']', '>'])
  | .comment text _ => '<' :: '!' :: ('-' :: '-' :: text ++ ['-', '-', '>'])
  | .instruction target text _ => '<' :: '?' :: (target.chars ++ text ++ ['?', '>'])
  | .startTag tag => '<' :: tag.inner
  | .endTag name space => '<' :: '/' :: (name.chars ++ space.1 ++ ['>'])

/-- The pieces of a document without a document type. Whether tags match does not
matter here. -/
abbrev XmlDocument := List Markup

/-- The text of a document. -/
def XmlDocument.chars (document : XmlDocument) : List Char := document.flatMap Markup.chars

/-! ### Declarations -/

/-- `xmlns`. -/
def xmlns : NcName := ⟨'x', ['m', 'l', 'n', 's'], by decide, by decide⟩

/-- The attribute binds this prefix; `none` is the default namespace. -/
def XmlAttribute.Binds (attr : XmlAttribute) : Option NcName → Prop
  | none => attr.name = ⟨none, xmlns⟩
  | some name => attr.name = ⟨some xmlns, name⟩

/-- The patterns know the name. -/
def NcName.IsPlain (name : NcName) : Prop :=
  isPrefixStart name.first = true ∧ name.rest.all isPrefixPart = true

/-- How a parser reads attribute values: references and line ends are resolved. -/
def ReadsPlainText (read : List Char → List Char) : Prop :=
  ∀ value, (∀ c ∈ value, c ≠ '&' ∧ c ≠ '\t' ∧ c ≠ '\r' ∧ c ≠ '\n') → read value = value

/-- Every namespace declaration in a start tag is in the table. -/
def NamespacesAllowed (read : List Char → List Char) (document : XmlDocument) : Prop :=
  ∀ tag, .startTag tag ∈ document → ∀ attr ∈ tag.attributes, ∀ bound,
    attr.Binds bound → NamespaceBinding.IsAllowed
      ⟨bound.map fun name => String.ofList name.chars, String.ofList (read attr.value)⟩

/-- Every namespace prefix that a start tag declares has an ASCII name. -/
def PrefixesPlain (document : XmlDocument) : Prop :=
  ∀ tag, .startTag tag ∈ document → ∀ attr ∈ tag.attributes, ∀ name,
    attr.Binds (some name) → name.IsPlain

/-! ### What the patterns find -/

theorem isSpace_of_isXmlSpace {c : Char} (space : isXmlSpace c = true) : isSpace c = true := by
  simp only [isXmlSpace, Bool.or_eq_true, beq_iff_eq] at space
  rcases space with ((rfl | rfl) | rfl) | rfl <;> decide

theorem XmlSpaces.all_isSpace (spaces : XmlSpaces) : spaces.1.all isSpace = true :=
  List.all_eq_true.mpr fun c listed => isSpace_of_isXmlSpace (List.all_eq_true.mp spaces.2 c listed)

/-- Characters that `prefixPart` takes. -/
def isPrefixChar (c : Char) : Bool := c == ':' || isPrefixPart c

theorem isPrefixPart_of_isPrefixStart {c : Char} (start : isPrefixStart c = true) :
    isPrefixPart c = true := by
  rcases Bool.or_eq_true_iff.mp start with letter | line
  · simp [isPrefixPart, letter]
  · simp [isPrefixPart, line]

theorem not_isPrefixChar_of_isSpace {c : Char} (space : isSpace c = true) :
    isPrefixChar c = false := by
  by_contra named
  rw [Bool.not_eq_false] at named
  have bounds : 45 ≤ c.toNat ∧ c.toNat ≤ 122 := by
    simp only [isPrefixChar, isPrefixPart, isLetter, isDigit, Bool.or_eq_true, Bool.and_eq_true,
      decide_eq_true_eq, beq_iff_eq] at named
    rcases named with rfl | ((((⟨low, high⟩ | ⟨low, high⟩) | ⟨low, high⟩) | rfl) | rfl) | rfl
    · decide
    · exact ⟨le_trans (by decide) (Char.le_def.mp low), le_trans (Char.le_def.mp high) (by decide)⟩
    · exact ⟨le_trans (by decide) (Char.le_def.mp low), le_trans (Char.le_def.mp high) (by decide)⟩
    · exact ⟨le_trans (by decide) (Char.le_def.mp low), le_trans (Char.le_def.mp high) (by decide)⟩
    · decide
    · decide
    · decide
  simp only [isSpace, Bool.or_eq_true, Bool.and_eq_true, decide_eq_true_eq, beq_iff_eq] at space
  omega

theorem prefixPart_accepts_iff
    {named : List Char} :
    prefixPart.Accepts named ↔ named = [] ∨ ∃ first more, named = ':' :: first :: more ∧
      isPrefixStart first = true ∧ more.all isPrefixPart = true := by
  constructor
  · rintro (⟨_, _, rfl, ⟨colon, rfl, isColon⟩, _, more, rfl, ⟨first, rfl, isFirst⟩, areMore, -⟩ | none)
    · obtain rfl := beq_iff_eq.mp isColon
      exact .inr ⟨first, more, rfl, isFirst, areMore⟩
    · exact .inl none
  · rintro (none | ⟨first, more, rfl, isFirst, areMore⟩)
    · exact .inr none
    · exact .inl ⟨[':'], first :: more, rfl, ⟨':', rfl, rfl⟩, [first], more, rfl,
        ⟨first, rfl, isFirst⟩, areMore, Nat.zero_le _, nofun⟩

theorem all_isPrefixChar_of_accepts
    {named : List Char}
    (accepted : prefixPart.Accepts named) : named.all isPrefixChar = true := by
  rcases prefixPart_accepts_iff.mp accepted with rfl | ⟨first, more, rfl, isFirst, areMore⟩
  · rfl
  · simp only [List.all_cons, Bool.and_eq_true, List.all_eq_true] at areMore ⊢
    refine ⟨rfl, ?_, fun c listed => ?_⟩
    · simp [isPrefixChar, isPrefixPart_of_isPrefixStart isFirst]
    · simp [isPrefixChar, areMore c listed]

/-- The beginning of a declaration, as far as the patterns know it. -/
structure BeginsAssignment (space : Char) (named blank rest text : List Char) : Prop where
  isSpace : isSpace space = true
  isNamed : prefixPart.Accepts named
  isBlank : blank.all PyText.isSpace = true
  isText : text = space :: (xmlns.chars ++ (named ++ (blank ++ '=' :: rest)))

theorem assignmentAt_eq_some
    {text rest : List Char}
    {done : Unit}
    (matched : assignmentAt text = some (done, rest)) :
    ∃ space named blank, BeginsAssignment space named blank rest text := by
  simp only [assignmentAt, Option.map_eq_some_iff, Prod.mk.injEq] at matched
  obtain ⟨_, matched, -, rfl⟩ := matched
  obtain ⟨_, rfl, _, _, rfl, ⟨_, _, rfl, ⟨space, rfl, isSpace⟩, isName⟩, named, _, rfl, isNamed,
    blank, _, rfl, ⟨isBlank, -⟩, sign, rfl, isSign⟩ := Regex.exists_of_match? matched
  obtain rfl := Regex.accepts_text.mp isName
  obtain rfl := beq_iff_eq.mp isSign
  refine ⟨space, named, blank, isSpace, isNamed, isBlank, ?_⟩
  simp [xmlns, NcName.chars]

theorem BeginsAssignment.isSome
    {space : Char}
    {named blank rest text : List Char}
    (begins : BeginsAssignment space named blank rest text) :
    (assignmentAt text).isSome = true := by
  obtain ⟨isSpace, isNamed, isBlank, rfl⟩ := begins
  rw [assignmentAt, Option.isSome_map, Regex.match?, List.isSome_head?]
  have listed : rest ∈ namespaceAssignment.rests
      (space :: (xmlns.chars ++ (named ++ (blank ++ '=' :: rest)))) := by
    refine Regex.mem_rests.mpr ⟨space :: (xmlns.chars ++ (named ++ (blank ++ ['=']))), by simp,
      space :: xmlns.chars, named ++ (blank ++ ['=']), rfl, ?_, named, blank ++ ['='], rfl, isNamed,
      blank, ['='], rfl, ⟨isBlank, Nat.zero_le _, nofun⟩, '=', rfl, rfl⟩
    exact ⟨[space], xmlns.chars, rfl, ⟨space, rfl, isSpace⟩, Regex.accepts_text.mpr rfl⟩
  exact List.ne_nil_of_mem listed

/-- A declaration that the patterns find. -/
theorem declarationAt_eq_some
    {text rest : List Char}
    {binding : NamespaceBinding}
    (matched : declarationAt text = some (binding, rest)) :
    ∃ space named blank blank' quote uri,
      BeginsAssignment space named blank (blank' ++ quote :: (uri ++ quote :: rest)) text ∧
        blank'.all isSpace = true ∧ isQuote quote = true ∧ (∀ c ∈ uri, isQuote c = false) ∧
        binding = ⟨prefixGroup named, String.ofList uri⟩ := by
  have listed := List.mem_of_head? matched
  simp only [namespaceDeclarations, List.mem_flatMap, List.mem_map, Prod.exists, Prod.mk.injEq]
    at listed
  obtain ⟨afterName, isAfterName, named, afterPrefix, isNamed, opening, isOpening, _, quoted,
    isQuoted, uri, closing, isUri, _, isClosing, isBinding, rfl⟩ := listed
  obtain ⟨_, rfl, _, _, rfl, ⟨space, rfl, isSpace⟩, isName⟩ := Regex.mem_rests.mp isAfterName
  obtain ⟨rfl, accepted⟩ := Regex.mem_splits.mp isNamed
  obtain ⟨_, rfl, blank, _, rfl, ⟨isBlank, -⟩, _, blank', rfl, ⟨sign, rfl, isSign⟩,
    ⟨isBlank', -⟩⟩ := Regex.mem_rests.mp isOpening
  obtain ⟨rfl, quote, rfl, isMark⟩ := Regex.mem_splits.mp isQuoted
  obtain ⟨rfl, areUri, -⟩ := Regex.mem_splits.mp isUri
  obtain ⟨_, rfl, isEnd⟩ := Regex.mem_rests.mp isClosing
  obtain rfl := Regex.accepts_text.mp isName
  obtain rfl := Regex.accepts_text.mp isEnd
  obtain rfl := beq_iff_eq.mp isSign
  refine ⟨space, named, blank, blank', quote, uri, ⟨isSpace, accepted, isBlank, ?_⟩, isBlank',
    isMark, fun c listed => ?_, isBinding.symm⟩
  · simp [xmlns, NcName.chars]
  · simpa using List.all_eq_true.mp areUri c listed

/-- Assignments do not overlap. -/
theorem apart_assignmentAt : Regex.Apart assignmentAt := by
  intro c chars done rest matched text isSuffix longer
  obtain ⟨space, named, blank, -, isNamed, isBlank, isText⟩ := assignmentAt_eq_some matched
  rw [← Option.not_isSome_iff_eq_none, Option.isSome_iff_exists]
  rintro ⟨⟨another, rest'⟩, matched'⟩
  obtain ⟨space', named', blank', isSpace', -, -, rfl⟩ := assignmentAt_eq_some matched'
  obtain ⟨front, split⟩ := isSuffix
  rw [← split] at isText
  have same : front ++ space' :: (xmlns.chars ++ (named' ++ (blank' ++ '=' :: rest'))) =
      (xmlns.chars ++ named) ++ (blank ++ '=' :: rest) := by
    rw [(List.cons.inj isText).2, List.append_assoc]
  rcases Regex.split_append same with ⟨more, isName, -⟩ | ⟨more, rfl, isBlankRest⟩
  · -- The name has no white space.
    have listed : space' ∈ xmlns.chars ++ named := isName ▸ List.mem_append_right _ List.mem_cons_self
    have isChar : isPrefixChar space' = true := by
      rcases List.mem_append.mp listed with inName | inNamed
      · have all : xmlns.chars.all isPrefixChar = true := by decide +kernel
        exact List.all_eq_true.mp all space' inName
      · exact List.all_eq_true.mp (all_isPrefixChar_of_accepts isNamed) space' inNamed
    rw [not_isPrefixChar_of_isSpace isSpace'] at isChar
    cases isChar
  · rcases Regex.split_append isBlankRest.symm with ⟨more', rfl, isName⟩ | ⟨more', rfl, isRest⟩
    · -- White space or the sign follows, not the name.
      cases more' with
      | nil => cases (List.cons.inj isName).1
      | cons x more' =>
          have space := List.all_eq_true.mp isBlank x (by simp)
          rw [← (List.cons.inj isName).1] at space
          cases space
    · cases more' with
      | nil =>
          rw [← (List.cons.inj isRest).1] at isSpace'
          cases isSpace'
      | cons x more' =>
          obtain ⟨rfl, rfl⟩ := List.cons.inj isRest
          refine absurd longer (Nat.not_lt.mpr ?_)
          rw [List.append_eq, List.length_append]
          exact Nat.le_add_left _ _

/-- White space and the sign end the name. -/
theorem stops_of_blank
    {blank rest : List Char}
    (isBlank : blank.all isSpace = true) :
    ∀ c ∈ (blank ++ '=' :: rest).head?, isPrefixChar c = false := by
  cases blank with
  | nil =>
      rintro c ⟨⟩
      rfl
  | cons x blank =>
      rintro c ⟨⟩
      exact not_isPrefixChar_of_isSpace (List.all_eq_true.mp isBlank x List.mem_cons_self)

/-- A declaration is found as it is written. -/
theorem declarationAt_eq
    {space : Char}
    {named blank blank' value after text rest : List Char}
    {quote : Char}
    {binding : NamespaceBinding}
    (begins : BeginsAssignment space named blank (blank' ++ quote :: (value ++ quote :: after)) text)
    (isBlank' : blank'.all isSpace = true)
    (isMark : isQuote quote = true)
    (closes : quote ∉ value)
    (matched : declarationAt text = some (binding, rest)) :
    binding = ⟨prefixGroup named, String.ofList value⟩ := by
  obtain ⟨space₂, named₂, blank₂, blank₃, quote₂, uri, begins₂, isBlank₃, isMark₂, noQuote, rfl⟩ :=
    declarationAt_eq_some matched
  have same := begins.isText.symm.trans begins₂.isText
  obtain ⟨rfl, fromBlank⟩ := Regex.append_eq_of_stops
    (List.append_cancel_left (List.cons.inj same).2)
    (all_isPrefixChar_of_accepts begins.isNamed) (all_isPrefixChar_of_accepts begins₂.isNamed)
    (stops_of_blank begins.isBlank) (stops_of_blank begins₂.isBlank)
  have sign : ∀ {chars : List Char}, ∀ c ∈ ('=' :: chars).head?, isSpace c = false := by
    rintro chars c ⟨⟩
    rfl
  obtain ⟨-, fromSign⟩ := Regex.append_eq_of_stops fromBlank begins.isBlank begins₂.isBlank sign sign
  have mark : ∀ {q : Char}, isQuote q = true → ∀ {chars : List Char}, ∀ c ∈ (q :: chars).head?,
      isSpace c = false := by
    rintro q isMark chars c ⟨⟩
    simp only [isQuote, Bool.or_eq_true, beq_iff_eq] at isMark
    rcases isMark with rfl | rfl <;> rfl
  obtain ⟨-, fromQuote⟩ := Regex.append_eq_of_stops (List.cons.inj fromSign).2 isBlank' isBlank₃
    (mark isMark) (mark isMark₂)
  obtain ⟨rfl, fromValue⟩ := List.cons.inj fromQuote
  have ends : ∀ {chars : List Char}, ∀ c ∈ (quote :: chars).head?, (c != quote) = false := by
    rintro chars c ⟨⟩
    simp
  obtain ⟨rfl, -⟩ := @Regex.append_eq_of_stops (· != quote) _ _ _ _ fromValue
    (List.all_eq_true.mpr fun c listed => by simpa using fun isEnd : c = quote => closes (isEnd ▸ listed))
    (List.all_eq_true.mpr fun c listed => by
      have other := noQuote c listed
      rw [bne_iff_ne]
      rintro rfl
      rw [other] at isMark
      cases isMark)
    ends ends
  rfl

/-- An accepted text has only allowed bindings where the patterns know the prefix. -/
theorem isAllowed_of_validateNamespaces
    {chars : List Char}
    (accepted : validateNamespaces chars = .ok ())
    {space : Char}
    {named blank blank' value after text : List Char}
    {quote : Char}
    (isSuffix : text <:+ chars)
    (begins : BeginsAssignment space named blank (blank' ++ quote :: (value ++ quote :: after)) text)
    (isBlank' : blank'.all isSpace = true)
    (isMark : isQuote quote = true)
    (closes : quote ∉ value) :
    NamespaceBinding.IsAllowed ⟨prefixGroup named, String.ofList value⟩ := by
  simp only [validateNamespaces, Checks.bind_done_eq_ok, Checks.require_eq_ok] at accepted
  obtain ⟨lengths, allowed⟩ := accepted
  have narrower : ∀ text, (declarationAt text).isSome = true → (assignmentAt text).isSome = true := by
    intro text found
    obtain ⟨⟨binding, rest⟩, matched⟩ := Option.isSome_iff_exists.mp found
    obtain ⟨_, _, _, _, _, _, begins, -⟩ := declarationAt_eq_some matched
    exact begins.isSome
  obtain ⟨binding, listed⟩ := Regex.exists_mem_finditer_of_length rfl apart_assignmentAt narrower
    lengths isSuffix begins.isSome
  obtain ⟨rest, matched⟩ := Regex.exists_of_mem_finditerFrom listed
  obtain rfl := declarationAt_eq begins isBlank' isMark closes matched
  exact Checks.forM_require_eq_ok.mp allowed _ listed

/-! ### Start tags -/

/-- What the XML declaration was: white space and one instruction. -/
theorem exists_removed (text : List Char) :
    withoutDeclaration text = text ∨ ∃ blank inner, blank.all isSpace = true ∧ '?' ∉ inner ∧
      text = blank ++ '<' :: '?' :: (inner ++ '?' :: '>' :: withoutDeclaration text) := by
  cases matched : xmlDeclaration.match? text with
  | none =>
      left
      rw [withoutDeclaration, matched, Option.getD_none]
  | some rest =>
      right
      obtain ⟨_, rfl, blank, _, rfl, ⟨isBlank, -⟩, _, _, rfl,
        ⟨_, _, rfl, ⟨open₁, rfl, isOpen₁⟩, _, _, rfl, ⟨open₂, rfl, isOpen₂⟩, _, _, rfl,
          ⟨x, rfl, isX⟩, _, _, rfl, ⟨m, rfl, isM⟩, _, _, rfl, ⟨l, rfl, isL⟩, rfl⟩,
        attributes, _, rfl, areAttributes, isEnd⟩ := Regex.exists_of_match? matched
      obtain rfl := Regex.accepts_text.mp isEnd
      obtain rfl := List.mem_singleton.mp (List.contains_iff_mem.mp isOpen₁)
      obtain rfl := List.mem_singleton.mp (List.contains_iff_mem.mp isOpen₂)
      refine ⟨blank, x :: m :: l :: attributes, isBlank, ?_, ?_⟩
      · have apart : ∀ {letters : List Char} {c : Char}, letters.contains c = true →
            letters.contains '?' = false → '?' ≠ c := by
          rintro letters c listed absent rfl
          rw [listed] at absent
          cases absent
        have none : '?' ∉ attributes := by
          intro listed
          rcases areAttributes with ⟨space, more, rfl, ⟨isSpace, -⟩, ⟨isMore, -⟩⟩ | rfl
          · rcases List.mem_append.mp listed with inSpace | inMore
            · exact absurd (List.all_eq_true.mp isSpace _ inSpace) (by decide)
            · exact absurd (List.all_eq_true.mp isMore _ inMore) (by decide)
          · cases listed
        simp only [List.mem_cons, not_or]
        exact ⟨apart isX rfl, apart isM rfl, apart isL rfl, none⟩
      · rw [withoutDeclaration, matched, Option.getD_some]
        simp

/-- An instruction behind white space, read off the first tag. -/
theorem eq_of_blank
    {blank rest rest' : List Char}
    {c : Char}
    (isBlank : blank.all isSpace = true)
    (same : '<' :: c :: rest = blank ++ '<' :: '?' :: rest') :
    blank = [] ∧ c = '?' ∧ rest = rest' := by
  cases blank with
  | nil =>
      obtain ⟨isMark, isRest⟩ := List.cons.inj (List.cons.inj same).2
      exact ⟨rfl, isMark, isRest⟩
  | cons x blank =>
      rw [List.all_cons, Bool.and_eq_true, ← (List.cons.inj same).1] at isBlank
      cases isBlank.1

/-- A start tag goes on with a name. -/
theorem StartTag.exists_first (tag : StartTag) :
    ∃ c more, tag.inner = c :: more ∧ isNameStart c = true := by
  rw [StartTag.inner, QName.chars]
  cases tag.name.space with
  | none => exact ⟨_, _, rfl, tag.name.localName.isFirst⟩
  | some name => exact ⟨_, _, rfl, name.isFirst⟩

/-- The text in front of a start tag holds all of an instruction that was removed. -/
theorem exists_before_startTag
    {front : XmlDocument}
    {c : Char}
    {blank inner rest stripped : List Char}
    (start : isNameStart c = true)
    (isBlank : blank.all isSpace = true)
    (noMark : '?' ∉ inner)
    (same : front.chars ++ '<' :: c :: rest =
      blank ++ '<' :: '?' :: (inner ++ '?' :: '>' :: stripped)) :
    ∃ before, stripped = before ++ '<' :: c :: rest := by
  have notStart : ∀ {d : Char} {more : List Char}, d ≠ '?' → '<' :: d :: more ≠
      blank ++ '<' :: '?' :: (inner ++ '?' :: '>' :: stripped) :=
    fun other isText => other (eq_of_blank isBlank isText).2.1
  induction front generalizing blank with
  | nil =>
      refine absurd same (notStart ?_)
      rintro rfl
      exact absurd start (by decide)
  | cons piece front inductionHypothesis =>
      rw [XmlDocument.chars, List.flatMap_cons, List.append_assoc] at same
      cases piece with
      | characters text noTag =>
          rcases Regex.split_append same.symm with ⟨more, isText, -⟩ | ⟨more, rfl, isRest⟩
          · have isTag : text = blank ++ '<' :: more := isText
            exact absurd (isTag ▸ List.mem_append_right _ List.mem_cons_self) noTag
          · rw [List.all_append, Bool.and_eq_true] at isBlank
            exact inductionHypothesis isBlank.2 isRest
              fun other isText => other (eq_of_blank isBlank.2 isText).2.1
      | cdata text => exact absurd same (notStart (by decide))
      | comment text => exact absurd same (notStart (by decide))
      | endTag name space => exact absurd same (notStart (by decide))
      | startTag tag =>
          obtain ⟨d, more, isInner, isStart⟩ := tag.exists_first
          rw [Markup.chars, isInner] at same
          refine absurd same (notStart ?_)
          rintro rfl
          exact absurd isStart (by decide)
      | instruction target text closes =>
          obtain ⟨rfl, -, isInner⟩ := eq_of_blank isBlank same
          have split : inner ++ '?' :: '>' :: stripped = (target.chars ++ text) ++
              '?' :: '>' :: (XmlDocument.chars front ++ '<' :: c :: rest) := by
            simpa [XmlDocument.chars] using isInner.symm
          rcases Regex.split_append split with ⟨more, isText, isRest⟩ | ⟨more, rfl, isRest⟩
          · -- The instruction ends with the first `?>`.
            refine absurd ?_ closes
            cases more with
            | nil => cases (List.cons.inj isRest).1
            | cons x more =>
                obtain ⟨rfl, -⟩ := List.cons.inj isRest
                exact ⟨inner, more, by simp [isText]⟩
          · cases more with
            | nil => exact ⟨XmlDocument.chars front, (List.cons.inj (List.cons.inj isRest).2).2.symm⟩
            | cons x more =>
                obtain ⟨rfl, -⟩ := List.cons.inj isRest
                exact absurd (List.mem_append_right _ List.mem_cons_self) noMark

/-- An attribute of a start tag, in the text without the declaration. -/
theorem exists_suffix_of_attribute
    {document : XmlDocument}
    {tag : StartTag}
    (listed : .startTag tag ∈ document)
    {attr : XmlAttribute}
    (isAttribute : attr ∈ tag.attributes) :
    ∃ space after, isSpace space = true ∧
      space :: (attr.assignment ++ after) <:+ withoutDeclaration document.chars := by
  obtain ⟨front, back, rfl⟩ := List.append_of_mem listed
  obtain ⟨before, behind, isAttributes⟩ := List.append_of_mem isAttribute
  obtain ⟨c, more, isInner, start⟩ := tag.exists_first
  obtain ⟨whole, isWhole⟩ : ∃ whole, withoutDeclaration (XmlDocument.chars
      (front ++ .startTag tag :: back)) = whole ++ '<' :: (tag.inner ++ XmlDocument.chars back) := by
    have isText : XmlDocument.chars (front ++ .startTag tag :: back) =
        XmlDocument.chars front ++ '<' :: (tag.inner ++ XmlDocument.chars back) := by
      simp [XmlDocument.chars, Markup.chars]
    rcases exists_removed (XmlDocument.chars (front ++ .startTag tag :: back)) with
      same | ⟨blank, inner, isBlank, noMark, isRemoved⟩
    · exact ⟨XmlDocument.chars front, same.trans isText⟩
    · rw [isInner, List.cons_append] at isText ⊢
      exact exists_before_startTag start isBlank noMark (isText.symm.trans isRemoved)
  obtain ⟨spaces, space, isSpaces⟩ := List.eq_nil_or_concat attr.space.1 |>.resolve_left
    attr.spacePresent
  refine ⟨space, behind.flatMap XmlAttribute.chars ++ (tag.space.1 ++ (if tag.isEmpty then ['/', '>']
    else ['>'])) ++ XmlDocument.chars back, List.all_eq_true.mp attr.space.all_isSpace space ?_,
    whole ++ '<' :: (tag.name.chars ++ (before.flatMap XmlAttribute.chars ++ spaces)), ?_⟩
  · rw [isSpaces]
    simp
  · rw [isWhole, StartTag.inner, isAttributes]
    simp [XmlAttribute.chars, isSpaces]

/-- An attribute that binds a prefix which the patterns know. -/
theorem begins_of_binds
    {attr : XmlAttribute}
    {bound : Option NcName}
    (binds : attr.Binds bound)
    (plain : ∀ name ∈ bound, name.IsPlain)
    {space : Char}
    (space' : isSpace space = true)
    (after : List Char) :
    ∃ named, prefixGroup named = bound.map (fun name => String.ofList name.chars) ∧
      BeginsAssignment space named attr.beforeSign.1
        (attr.afterSign.1 ++ attr.quote :: (attr.value ++ attr.quote :: after))
        (space :: (attr.assignment ++ after)) := by
  cases bound with
  | none =>
      refine ⟨[], rfl, space', prefixPart_accepts_iff.mpr (.inl rfl), attr.beforeSign.all_isSpace, ?_⟩
      rw [XmlAttribute.assignment, show attr.name = ⟨none, xmlns⟩ from binds]
      simp [QName.chars]
  | some name =>
      obtain ⟨isFirst, isRest⟩ := plain name rfl
      refine ⟨':' :: name.chars, rfl, space', prefixPart_accepts_iff.mpr
        (.inr ⟨name.first, name.rest, rfl, isFirst, isRest⟩), attr.beforeSign.all_isSpace, ?_⟩
      rw [XmlAttribute.assignment, show attr.name = ⟨some xmlns, name⟩ from binds]
      simp [QName.chars]

/-! ### The table -/

/-- The prefixes of the table have ASCII names. -/
theorem prefixes_plain :
    (allowedNamespaceBindings.all fun (named, _) => named.toList.all fun name =>
      name.toList.head?.any isPrefixStart && name.toList.tail.all isPrefixPart) = true := by
  decide +kernel

/-- The URIs of the table hold no reference and no line end, seen from their bytes. -/
theorem uris_plain :
    (allowedNamespaceBindings.all fun (_, uris) => uris.all fun uri =>
      uri.toByteArray.data.toList.all fun byte => byte != 38 && 14 ≤ byte) = true := by
  decide +kernel

/-- An allowed binding is an entry of the table. -/
theorem NamespaceBinding.IsAllowed.exists_entry
    {binding : NamespaceBinding}
    (allowed : binding.IsAllowed) :
    ∃ uris, (binding.namespacePrefix, uris) ∈ allowedNamespaceBindings ∧ binding.uri ∈ uris := by
  unfold NamespaceBinding.IsAllowed at allowed
  cases found : allowedNamespaceBindings.lookup binding.namespacePrefix with
  | none =>
      rw [found] at allowed
      cases allowed
  | some uris =>
      rw [found] at allowed
      obtain ⟨front, back, split, -⟩ := List.lookup_eq_some_iff.mp found
      exact ⟨uris, split ▸ List.mem_append_right _ List.mem_cons_self, allowed⟩

theorem NamespaceBinding.IsAllowed.plain
    {name : NcName}
    {uri : String}
    (allowed : NamespaceBinding.IsAllowed ⟨some (String.ofList name.chars), uri⟩) :
    name.IsPlain := by
  obtain ⟨uris, listed, -⟩ := allowed.exists_entry
  have plain := List.all_eq_true.mp prefixes_plain _ listed
  simpa [NcName.chars, NcName.IsPlain] using plain

theorem NamespaceBinding.IsAllowed.read_eq
    {read : List Char → List Char}
    (reads : ReadsPlainText read)
    {named : Option String}
    {value : List Char}
    (allowed : NamespaceBinding.IsAllowed ⟨named, String.ofList value⟩) : read value = value := by
  obtain ⟨uris, listed, isUri⟩ := allowed.exists_entry
  have plain := List.all_eq_true.mp (List.all_eq_true.mp uris_plain _ listed) _ isUri
  refine reads value fun c inValue => ?_
  have inBytes : ∀ byte ∈ String.utf8EncodeChar c, byte ≠ 38 ∧ 14 ≤ byte := fun byte isByte => by
    simpa using List.all_eq_true.mp plain byte (PyStr.mem_toByteArray (by simpa using inValue) isByte)
  refine ⟨?_, ?_, ?_, ?_⟩
  · rintro rfl
    exact (inBytes 38 (by decide)).1 rfl
  · rintro rfl
    exact absurd (inBytes 9 (by decide)).2 (by decide)
  · rintro rfl
    exact absurd (inBytes 13 (by decide)).2 (by decide)
  · rintro rfl
    exact absurd (inBytes 10 (by decide)).2 (by decide)

/-- **The namespace allowlist**: in an accepted document all namespace declarations of
start tags are in the table exactly when all declared prefixes have ASCII names. -/
theorem namespacesAllowed_iff
    {read : List Char → List Char}
    (reads : ReadsPlainText read)
    {document : XmlDocument}
    {payload : List UInt8}
    (decoded : decodeUtf8Sig payload = some (String.ofList document.chars))
    (accepted : validateXmlLexicalContent payload = .ok ()) :
    NamespacesAllowed read document ↔ PrefixesPlain document := by
  constructor
  · intro allowed tag listed attr isAttribute name binds
    exact (allowed tag listed attr isAttribute (some name) binds).plain
  · intro plain tag listed attr isAttribute bound binds
    simp only [validateXmlLexicalContent, decoded, requireSome, Checks.ok_bind,
      Checks.bind_done_eq_ok, String.toList_ofList] at accepted
    obtain ⟨space, after, isSpace, isSuffix⟩ := exists_suffix_of_attribute listed isAttribute
    obtain ⟨named, isNamed, begins⟩ := begins_of_binds binds
      (fun name isName => plain tag listed attr isAttribute name (isName ▸ binds)) isSpace after
    have allowed := isAllowed_of_validateNamespaces accepted.2.2 isSuffix begins
      attr.afterSign.all_isSpace attr.isQuote attr.closes
    rwa [allowed.read_eq reads, ← isNamed]

/-! ### Documents -/

/-- One empty tag that declares a prefix. -/
def declaring (name : NcName) (uri : List Char) (closes : '"' ∉ uri) : XmlDocument :=
  [.startTag
    { name := ⟨none, ⟨'a', [], by decide, by decide⟩⟩
      attributes :=
        [{ space := ⟨[' '], by decide⟩
           name := ⟨some xmlns, name⟩
           beforeSign := ⟨[], rfl⟩
           afterSign := ⟨[], rfl⟩
           quote := '"'
           value := uri
           spacePresent := List.cons_ne_nil _ _
           isQuote := by decide
           closes }]
      space := ⟨[], rfl⟩
      isEmpty := true }]

/-- `<a xmlns:dc="http://purl.org/dc/elements/1.1/"/>`. -/
def dublinCore : XmlDocument :=
  declaring ⟨'d', ['c'], by decide, by decide⟩ "http://purl.org/dc/elements/1.1/".toList
    (by decide +kernel)

theorem namespacesAllowed_iff_dublinCore : NamespacesAllowed id dublinCore := by
  refine (@namespacesAllowed_iff id (fun _ _ => rfl) dublinCore (bytesOf dublinCore.chars)
    (decodeUtf8Sig_bytesOf (by decide +kernel)) (by decide +kernel)).mpr ?_
  intro tag listed attr isAttribute name binds
  obtain rfl := Markup.startTag.inj (List.mem_singleton.mp listed)
  obtain rfl := List.mem_singleton.mp isAttribute
  obtain ⟨-, rfl⟩ := QName.mk.inj binds
  exact ⟨by decide, by decide⟩

/-- `<a xmlns:é="urn:x"/>`: the patterns do not find the declaration. -/
def accented : XmlDocument :=
  declaring ⟨'é', [], by decide, by decide⟩ "urn:x".toList (by decide +kernel)

theorem not_namespacesAllowed_accented :
    validateXmlLexicalContent (bytesOf accented.chars) = .ok () ∧
      decodeUtf8Sig (bytesOf accented.chars) = some (String.ofList accented.chars) ∧
        ¬NamespacesAllowed id accented := by
  refine ⟨by decide +kernel, decodeUtf8Sig_bytesOf (by decide +kernel), fun allowed => ?_⟩
  have plain := (allowed _ List.mem_cons_self _ List.mem_cons_self (some _) rfl).plain
  exact absurd plain.1 (by decide)

end Xlsx
end QuantumAnalytics
