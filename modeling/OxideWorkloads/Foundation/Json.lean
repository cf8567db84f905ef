/-
JSON documents as trees, their compact and indented texts, and the accessors
that a document reader uses.

Both texts are one rendering with different white space between the tokens,
so that a fact about rendered texts is proved once for every layout.
-/

import Mathlib.Data.List.Basic
import OxideWorkloads.Foundation.TextFunctions

namespace Foundation

/-- A JSON document.  The members of an object are kept in the order of the
text, repeated keys included.  A number that is not an integer is kept as its
text. -/
inductive Json where
  | null
  | bool (value : Bool)
  | integer (value : Int)
  | float (text : String)
  | string (text : String)
  | array (items : List Json)
  | object (members : List (String × Json))

namespace Json

/-- Induction over documents with the hypotheses for the parts of a container
stated on membership. -/
theorem treeInduction {motive : Json → Prop} (null : motive .null)
    (bool : ∀ value, motive (.bool value))
    (integer : ∀ value, motive (.integer value))
    (float : ∀ text, motive (.float text))
    (string : ∀ text, motive (.string text))
    (array : ∀ items, (∀ item ∈ items, motive item) → motive (.array items))
    (object : ∀ members, (∀ member ∈ members, motive member.2) →
      motive (.object members)) (document : Json) : motive document := by
  refine Json.rec (motive_1 := motive)
    (motive_2 := fun items => ∀ item ∈ items, motive item)
    (motive_3 := fun members => ∀ member ∈ members, motive member.2)
    (motive_4 := fun member => motive member.2)
    null bool integer float string array object ?_ ?_ ?_ ?_ ?_ document
  · intro item member
    cases member
  · intro head tail headHolds tailHolds item member
    rcases List.mem_cons.mp member with atHead | inTail
    · rw [atHead]
      exact headHolds
    · exact tailHolds item inTail
  · intro item member
    cases member
  · intro head tail headHolds tailHolds item member
    rcases List.mem_cons.mp member with atHead | inTail
    · rw [atHead]
      exact headHolds
    · exact tailHolds item inTail
  · intro key value holds
    exact holds

/-! ### Rendering -/

/-- The four bytes of white space that JSON allows between tokens. -/
def isSpace (byte : UInt8) : Bool :=
  byte = 0x20 || byte = 0x09 || byte = 0x0A || byte = 0x0D

/-- The white space a rendering puts between tokens: in front of an item at a
nesting depth, in front of a closing bracket at the depth outside it, and
after the colon of a member. -/
structure Layout where
  gap : Nat → List UInt8
  afterColon : List UInt8
  gapSpace : ∀ depth, (gap depth).all isSpace = true
  afterColonSpace : afterColon.all isSpace = true

def compactLayout : Layout :=
  { gap := fun _ => []
    afterColon := []
    gapSpace := fun _ => rfl
    afterColonSpace := rfl }

/-- One item to a line, two blanks for each level of nesting. -/
def prettyLayout : Layout :=
  { gap := fun depth => 0x0A :: List.replicate (2 * depth) 0x20
    afterColon := [0x20]
    gapSpace := by
      intro depth
      simp [isSpace]
    afterColonSpace := rfl }

/-- The UTF-8 bytes of a text. -/
def utf8 (text : String) : List UInt8 :=
  text.toList.flatMap String.utf8EncodeChar

def hexDigit (value : Nat) : UInt8 :=
  if value < 10 then UInt8.ofNat (0x30 + value)
  else UInt8.ofNat (0x61 + (value - 10))

/-- One character inside a JSON string. -/
def escapeChar (char : Char) : List UInt8 :=
  let code := char.toNat
  if code = 0x22 then [0x5C, 0x22]
  else if code = 0x5C then [0x5C, 0x5C]
  else if code = 0x08 then [0x5C, 0x62]
  else if code = 0x09 then [0x5C, 0x74]
  else if code = 0x0A then [0x5C, 0x6E]
  else if code = 0x0C then [0x5C, 0x66]
  else if code = 0x0D then [0x5C, 0x72]
  else if code < 0x20 then
    [0x5C, 0x75, 0x30, 0x30, hexDigit (code / 16), hexDigit (code % 16)]
  else String.utf8EncodeChar char

/-- A quoted and escaped string. -/
def renderString (text : String) : List UInt8 :=
  0x22 :: text.toList.flatMap escapeChar ++ [0x22]

/-- An ASCII text as bytes. -/
def asciiBytes (chars : List Char) : List UInt8 :=
  chars.map (fun char => UInt8.ofNat char.toNat)

/-- The text of an integer: an optional sign and its digits. -/
def integerChars (value : Int) : List Char :=
  if value < 0 then '-' :: Nat.toDigits 10 value.natAbs
  else Nat.toDigits 10 value.natAbs

mutual

/-- The text of a document nested at some depth. -/
def render (layout : Layout) (depth : Nat) : Json → List UInt8
  | .null => [0x6E, 0x75, 0x6C, 0x6C]
  | .bool true => [0x74, 0x72, 0x75, 0x65]
  | .bool false => [0x66, 0x61, 0x6C, 0x73, 0x65]
  | .integer value => asciiBytes (integerChars value)
  | .float text => utf8 text
  | .string text => renderString text
  | .array [] => [0x5B, 0x5D]
  | .array (first :: rest) =>
      0x5B :: (layout.gap (depth + 1) ++ render layout (depth + 1) first ++
        renderItems layout (depth + 1) rest ++ layout.gap depth ++ [0x5D])
  | .object [] => [0x7B, 0x7D]
  | .object ((key, value) :: rest) =>
      0x7B :: (layout.gap (depth + 1) ++ renderString key ++
        0x3A :: (layout.afterColon ++ render layout (depth + 1) value ++
          renderMembers layout (depth + 1) rest ++ layout.gap depth ++
            [0x7D]))

/-- The items of an array after the first, each behind its comma. -/
def renderItems (layout : Layout) (depth : Nat) : List Json → List UInt8
  | [] => []
  | item :: rest =>
      0x2C :: (layout.gap depth ++ render layout depth item ++
        renderItems layout depth rest)

/-- The members of an object after the first, each behind its comma. -/
def renderMembers (layout : Layout) (depth : Nat) :
    List (String × Json) → List UInt8
  | [] => []
  | (key, value) :: rest =>
      0x2C :: (layout.gap depth ++ renderString key ++
        0x3A :: (layout.afterColon ++ render layout depth value ++
          renderMembers layout depth rest))

end

/-- The text without white space between tokens. -/
def compact (document : Json) : List UInt8 :=
  render compactLayout 0 document

/-- The indented text. -/
def pretty (document : Json) : List UInt8 :=
  render prettyLayout 0 document

/-! ### Access -/

/-- The value of a member.  A repeated key overrides the ones before it. -/
def get (document : Json) (key : String) : Option Json :=
  match document with
  | .object members =>
      (members.reverse.find? (fun member => member.1 = key)).map Prod.snd
  | _ => none

/-- An array index inside a pointer: decimal, without sign or leading zero. -/
def parseIndex (token : String) : Option Nat :=
  match token.toList with
  | '+' :: _ => none
  | '0' :: _ :: _ => none
  | _ => Text.parseUnsigned u64Max token

/-- One reference token of a pointer. -/
def child (document : Json) (token : String) : Option Json :=
  match document with
  | .object _ => document.get token
  | .array items => (parseIndex token).bind (fun index => items[index]?)
  | _ => none

/-- Follow the reference tokens of a pointer. -/
def pointer (document : Json) : List String → Option Json
  | [] => some document
  | token :: rest =>
      match document.child token with
      | none => none
      | some inner => inner.pointer rest

def asString : Json → Option String
  | .string text => some text
  | _ => none

def asBool : Json → Option Bool
  | .bool value => some value
  | _ => none

/-- The value of a nonnegative integer that fits 64 bits. -/
def asU64 : Json → Option Nat
  | .integer value =>
      if 0 ≤ value ∧ value ≤ u64Max then some value.toNat else none
  | _ => none

/-- The value of an integer that fits 64 bits with a sign. -/
def asI64 : Json → Option Int
  | .integer value =>
      if i64Min ≤ value ∧ value ≤ i64Max then some value else none
  | _ => none

def isNull : Json → Bool
  | .null => true
  | _ => false

def ofNat (value : Nat) : Json :=
  .integer value

/-- An absent value is written as null. -/
def ofOption {α : Type} (encode : α → Json) : Option α → Json
  | none => .null
  | some value => encode value

/-! ### Documents every reader accepts -/

mutual

/-- Integers fit 64 bits, no other numbers occur, no key is repeated and
containers nest at most `limit` deep. -/
def plain (limit : Nat) : Json → Bool
  | .null => true
  | .bool _ => true
  | .integer value => i64Min ≤ value && value ≤ u64Max
  | .float _ => false
  | .string _ => true
  | .array items =>
      match limit with
      | 0 => false
      | inner + 1 => plainItems inner items
  | .object members =>
      match limit with
      | 0 => false
      | inner + 1 =>
          (members.map Prod.fst).Nodup && plainMembers inner members

def plainItems (limit : Nat) : List Json → Bool
  | [] => true
  | item :: rest => plain limit item && plainItems limit rest

def plainMembers (limit : Nat) : List (String × Json) → Bool
  | [] => true
  | (_, value) :: rest => plain limit value && plainMembers limit rest

end

theorem plainItems_mem {limit : Nat} {items : List Json}
    (allPlain : plainItems limit items = true) :
    ∀ item ∈ items, plain limit item = true := by
  induction items with
  | nil =>
      intro item member
      cases member
  | cons head tail ih =>
      simp only [plainItems, Bool.and_eq_true] at allPlain
      intro item member
      rcases List.mem_cons.mp member with atHead | inTail
      · rw [atHead]
        exact allPlain.1
      · exact ih allPlain.2 item inTail

theorem plainMembers_mem {limit : Nat} {members : List (String × Json)}
    (allPlain : plainMembers limit members = true) :
    ∀ member ∈ members, plain limit member.2 = true := by
  induction members with
  | nil =>
      intro item member
      cases member
  | cons head tail ih =>
      rcases head with ⟨key, value⟩
      simp only [plainMembers, Bool.and_eq_true] at allPlain
      intro item member
      rcases List.mem_cons.mp member with atHead | inTail
      · rw [atHead]
        exact allPlain.1
      · exact ih allPlain.2 item inTail

/-! ### Properties of rendered texts -/

/-- A property of byte strings that concatenation keeps and that the tokens of
one layout have. -/
structure TokenProperty (layout : Layout) (holds : List UInt8 → Prop) :
    Prop where
  nil : holds []
  append : ∀ first second, holds first → holds second →
    holds (first ++ second)
  gap : ∀ depth, holds (layout.gap depth)
  afterColon : holds layout.afterColon
  bracket : ∀ byte ∈ [0x5B, 0x5D, 0x7B, 0x7D, 0x2C, 0x3A], holds [byte]
  null : holds [0x6E, 0x75, 0x6C, 0x6C]
  yes : holds [0x74, 0x72, 0x75, 0x65]
  no : holds [0x66, 0x61, 0x6C, 0x73, 0x65]
  integer : ∀ value, holds (asciiBytes (integerChars value))
  string : ∀ text, holds (renderString text)

namespace TokenProperty

variable {layout : Layout} {holds : List UInt8 → Prop}

theorem cons (property : TokenProperty layout holds) {byte : UInt8}
    {rest : List UInt8} (token : holds [byte]) (others : holds rest) :
    holds (byte :: rest) :=
  property.append [byte] rest token others

theorem items (property : TokenProperty layout holds) (depth : Nat)
    (items : List Json)
    (renders : ∀ item ∈ items, holds (render layout depth item)) :
    holds (renderItems layout depth items) := by
  induction items with
  | nil => exact property.nil
  | cons item rest ih =>
      unfold renderItems
      refine property.cons (property.bracket _ (by decide))
        (property.append _ _ (property.append _ _ (property.gap depth)
          (renders item List.mem_cons_self)) (ih ?_))
      exact fun other member => renders other (List.mem_cons_of_mem _ member)

theorem members (property : TokenProperty layout holds) (depth : Nat)
    (members : List (String × Json))
    (renders : ∀ member ∈ members, holds (render layout depth member.2)) :
    holds (renderMembers layout depth members) := by
  induction members with
  | nil => exact property.nil
  | cons member rest ih =>
      rcases member with ⟨key, value⟩
      have first := renders (key, value) List.mem_cons_self
      unfold renderMembers
      refine property.cons (property.bracket _ (by decide))
        (property.append _ _ (property.append _ _ (property.gap depth)
          (property.string key))
          (property.cons (property.bracket _ (by decide))
            (property.append _ _ (property.append _ _ property.afterColon
              first) (ih ?_))))
      exact fun other inRest => renders other (List.mem_cons_of_mem _ inRest)

/-- The text of a document has every property that its tokens have. -/
theorem render (property : TokenProperty layout holds) (document : Json) :
    ∀ limit, document.plain limit = true → ∀ depth,
      holds (document.render layout depth) := by
  induction document using Json.treeInduction with
  | null => exact fun _ _ _ => property.null
  | bool value =>
      intro _ _ _
      cases value with
      | true => exact property.yes
      | false => exact property.no
  | integer value => exact fun _ _ _ => property.integer value
  | float text =>
      intro limit isPlain
      simp [plain] at isPlain
  | string text => exact fun _ _ _ => property.string text
  | array items itemsHold =>
      intro limit isPlain depth
      cases limit with
      | zero => simp [plain] at isPlain
      | succ inner =>
          have each : ∀ item ∈ items,
              holds (item.render layout (depth + 1)) :=
            fun item member => itemsHold item member inner
              (plainItems_mem isPlain item member) (depth + 1)
          cases items with
          | nil =>
              exact property.cons (property.bracket _ (by decide))
                (property.bracket _ (by decide))
          | cons first rest =>
              have firstHolds := each first List.mem_cons_self
              have restHolds := property.items (depth + 1) rest
                (fun item member => each item (List.mem_cons_of_mem _ member))
              unfold Json.render
              exact property.cons (property.bracket _ (by decide))
                (property.append _ _ (property.append _ _
                  (property.append _ _ (property.append _ _
                    (property.gap (depth + 1)) firstHolds) restHolds)
                  (property.gap depth)) (property.bracket _ (by decide)))
  | object members membersHold =>
      intro limit isPlain depth
      cases limit with
      | zero => simp [plain] at isPlain
      | succ inner =>
          simp only [plain, Bool.and_eq_true] at isPlain
          have each : ∀ member ∈ members,
              holds (member.2.render layout (depth + 1)) :=
            fun member inMembers => membersHold member inMembers inner
              (plainMembers_mem isPlain.2 member inMembers) (depth + 1)
          cases members with
          | nil =>
              exact property.cons (property.bracket _ (by decide))
                (property.bracket _ (by decide))
          | cons first rest =>
              rcases first with ⟨key, value⟩
              have firstHolds := each (key, value) List.mem_cons_self
              have restHolds := property.members (depth + 1) rest
                (fun member inRest => each member
                  (List.mem_cons_of_mem _ inRest))
              unfold Json.render
              exact property.cons (property.bracket _ (by decide))
                (property.append _ _ (property.append _ _
                  (property.gap (depth + 1)) (property.string key))
                  (property.cons (property.bracket _ (by decide))
                    (property.append _ _ (property.append _ _
                      (property.append _ _ (property.append _ _
                        property.afterColon firstHolds) restHolds)
                      (property.gap depth)) (property.bracket _ (by decide)))))

end TokenProperty

end Json

end Foundation
