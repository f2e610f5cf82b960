import Mathlib.Data.Nat.Bitwise
import Mathlib.Data.List.TakeWhile
import Mathlib.Tactic.NormNum

/-! # IP addresses as text

The functions of Go's `net` and `net/netip` packages that the repository calls
to read and write addresses. An address is the number its sixteen bytes spell;
a four-byte slice stands for its IPv4-mapped form, so `to4` undoes `mapped`.
-/

namespace HomelabBuilder.Net

/-- The text before and after the first separator, as `strings.Cut` returns it. -/
def cut (separator : Char) : List Char → Option (List Char × List Char)
  | [] => none
  | head :: tail =>
      if head = separator then some ([], tail)
      else (cut separator tail).map fun parts => (head :: parts.1, parts.2)

/-! ## Sixteen-byte values -/

/-- The IPv4-mapped form `::ffff:a.b.c.d` of a four-byte address. -/
def mapped (address : Nat) : Nat := 0xFFFF * 2 ^ 32 + address

/-- `IP.To4`: the four low bytes when the address is IPv4-mapped. -/
def to4 (ip : Nat) : Option Nat :=
  if ip / 2 ^ 32 = 0xFFFF then some (ip % 2 ^ 32) else none

@[simp] theorem to4_mapped (address : Nat) (bound : address < 2 ^ 32) :
    to4 (mapped address) = some address := by
  have quotient : (0xFFFF * 2 ^ 32 + address) / 2 ^ 32 = 0xFFFF := by omega
  have remainder : (0xFFFF * 2 ^ 32 + address) % 2 ^ 32 = address := by omega
  simp only [to4, mapped, quotient, remainder, if_true]

theorem to4_lt {ip address : Nat} (equal : to4 ip = some address) :
    address < 2 ^ 32 := by
  unfold to4 at equal
  split at equal
  · cases equal
    exact Nat.mod_lt _ (by decide)
  · cases equal

/-! ## Dotted quads -/

/-- What `parseIPv4Fields` carries from one character to the next. -/
structure Fields where
  done : List Nat
  value : Nat
  digits : Nat
  deriving DecidableEq

def Fields.start : Fields where
  done := []
  value := 0
  digits := 0

def Fields.next (fields : Fields) (char : Char) : Option Fields :=
  if char.isDigit then
    if fields.digits = 1 ∧ fields.value = 0 then none
    else
      let value := fields.value * 10 + (char.toNat - '0'.toNat)
      if 255 < value then none
      else some { fields with value := value, digits := fields.digits + 1 }
  else if char = '.' then
    if fields.digits = 0 then none
    else if fields.done.length = 3 then none
    else some { done := fields.done ++ [fields.value], value := 0, digits := 0 }
  else none

def Fields.finish (fields : Fields) : Option Nat :=
  match fields.done with
  | [first, second, third] =>
      -- A trailing dot leaves the fourth field without a digit.
      if fields.digits = 0 then none
      else some (first * 2 ^ 24 + second * 2 ^ 16 + third * 2 ^ 8 + fields.value)
  | _ => none

def parseIPv4Fields (text : List Char) : Option Nat :=
  (text.foldlM Fields.next Fields.start).bind Fields.finish

/-! ## Colon-separated groups -/

def isHexDigit (char : Char) : Bool :=
  char.isDigit || ('a' ≤ char && char ≤ 'f') || ('A' ≤ char && char ≤ 'F')

def hexDigit (char : Char) : Nat :=
  if char.isDigit then char.toNat - '0'.toNat
  else if 'a' ≤ char ∧ char ≤ 'f' then char.toNat - 'a'.toNat + 10
  else char.toNat - 'A'.toNat + 10

def hexValue (digits : List Char) : Nat :=
  digits.foldl (fun value char => value * 16 + hexDigit char) 0

/-- The loop of `parseIPv6`: the 16-bit groups read so far, and before which
of them the `::` stood. The first argument counts the groups still allowed. -/
def parseGroups : Nat → List Nat → Option Nat → List Char →
    Option (List Nat × Option Nat)
  | 0, groups, ellipsis, text =>
      if text = [] then some (groups, ellipsis) else none
  | room + 1, groups, ellipsis, text =>
      let digits := text.takeWhile isHexDigit
      if digits = [] ∨ 4 < digits.length then none
      else
        match text.dropWhile isHexDigit with
        | [] => some (groups ++ [hexValue digits], ellipsis)
        | '.' :: _ =>
            -- An embedded dotted quad takes the place of two groups.
            if ellipsis = none ∧ groups.length ≠ 6 then none
            else if 8 < groups.length + 2 then none
            else
              (parseIPv4Fields text).map fun address =>
                (groups ++ [address / 2 ^ 16, address % 2 ^ 16], ellipsis)
        | [':'] => none
        | ':' :: ':' :: rest =>
            if ellipsis.isSome then none
            else
              let read := groups ++ [hexValue digits]
              if rest = [] then some (read, some read.length)
              else parseGroups room read (some read.length) rest
        | ':' :: rest => parseGroups room (groups ++ [hexValue digits]) ellipsis rest
        | _ => none

/-- Eight groups, with the `::` filled up with zeros. -/
def expandGroups (groups : List Nat) (ellipsis : Option Nat) : Option (List Nat) :=
  match ellipsis with
  | none => if groups.length = 8 then some groups else none
  | some position =>
      if groups.length < 8 then
        some (groups.take position ++ List.replicate (8 - groups.length) 0 ++
          groups.drop position)
      else none

def parseIPv6 (text : List Char) : Option Nat :=
  if '%' ∈ text then none
  else
    let parsed :=
      match text with
      | [':', ':'] => some ([], some 0)
      | ':' :: ':' :: rest => parseGroups 8 [] (some 0) rest
      | _ => parseGroups 8 [] none text
    parsed.bind fun read =>
      (expandGroups read.1 read.2).map fun groups =>
        groups.foldl (fun value group => value * 2 ^ 16 + group) 0

/-! ## Addresses and prefixes -/

/-- A `netip.Addr` without a zone. -/
inductive Addr
  | v4 (address : Nat)
  | v6 (address : Nat)

def Addr.as16 : Addr → Nat
  | .v4 address => mapped address
  | .v6 address => address

def Addr.bitLen : Addr → Nat
  | .v4 _ => 32
  | .v6 _ => 128

/-- The characters that tell the address families apart. -/
def isSeparator (char : Char) : Bool := char = '.' || char = ':' || char = '%'

/-- `netip.ParseAddr`; addresses with a zone are turned away by every caller. -/
def parseAddr (text : List Char) : Option Addr :=
  match text.find? isSeparator with
  | some '.' => (parseIPv4Fields text).map .v4
  | some ':' => (parseIPv6 text).map .v6
  | _ => none

/-- `net.ParseIP`, `none` for nil. -/
def parseIP (text : String) : Option Nat :=
  (parseAddr text.toList).map Addr.as16

/-- `net.ParseIP(text).To4()`. -/
def parseIPTo4 (text : String) : Option Nat :=
  (parseIP text).bind to4

/-- The number a run of decimal digits spells, `none` for anything else. -/
def decimal (text : List Char) : Option Nat :=
  if text ≠ [] ∧ text.all Char.isDigit then
    some (text.foldl (fun value char => value * 10 + (char.toNat - '0'.toNat)) 0)
  else none

/-- `net.CIDRMask`, four-byte masks in mapped form. -/
def cidrMask (ones bits : Nat) : Nat :=
  let mask := 2 ^ bits - 2 ^ (bits - ones)
  if bits = 32 then mapped mask else mask

/-- The `IPNet` of `net.ParseCIDR`: its masked address and its mask. -/
def netParseCIDR (text : String) : Option (Nat × Nat) := do
  let (address, mask) ← cut '/' text.toList
  let addr ← parseAddr address
  let ones ← decimal mask
  if addr.bitLen < ones then none
  else
    let unit := 2 ^ (addr.bitLen - ones)
    let network :=
      match addr with
      | .v4 value => mapped (value / unit * unit)
      | .v6 value => value / unit * unit
    some (network, cidrMask ones addr.bitLen)

/-- `IP.String` of a four-byte address. -/
def formatIPv4 (address : Nat) : String :=
  s!"{address / 2 ^ 24 % 256}.{address / 2 ^ 16 % 256}.{address / 2 ^ 8 % 256}.{address % 256}"

/-! ## Reading back what was written -/

private theorem foldlM_next_digits (done : List Nat) : ∀ (text : List Char),
    (∀ char ∈ text, char.isDigit = true) → ∀ value digits,
    text.foldlM Fields.next { done := done, value := value, digits := digits } =
      (text.foldlM Fields.next { done := [], value := value, digits := digits }).map
        fun fields => { fields with done := done }
  | [], _, _, _ => rfl
  | head :: tail, allDigits, value, digits => by
      have isDigit : head.isDigit = true := allDigits head List.mem_cons_self
      have rest := foldlM_next_digits done tail fun char member =>
        allDigits char (List.mem_cons_of_mem head member)
      simp only [List.foldlM_cons, Fields.next, isDigit, if_true]
      split
      · rfl
      · split
        · rfl
        · exact rest _ _

private theorem byte_isDigit : ∀ byte < 256,
    ((toString byte).toList.all Char.isDigit) = true := by
  intro byte _
  rw [Nat.toString_eq_ofList_toDigits, String.toList_ofList, List.all_eq_true]
  exact fun char member => Nat.isDigit_of_mem_toDigits (by decide) (by decide) member

private theorem foldlM_next_byte : ∀ byte < 256,
    (toString byte).toList.foldlM Fields.next Fields.start =
      some { done := [], value := byte, digits := (toString byte).length } := by
  have digits : ∀ byte < 256, (Nat.toDigits 10 byte).foldlM Fields.next Fields.start =
      some { done := [], value := byte, digits := (Nat.toDigits 10 byte).length } := by
    decide +kernel
  intro byte bound
  rw [Nat.toString_eq_ofList_toDigits, String.toList_ofList, String.length_ofList]
  exact digits byte bound

theorem foldlM_next_toString (done : List Nat) (byte : Nat) (bound : byte < 256) :
    (toString byte).toList.foldlM Fields.next
        { done := done, value := 0, digits := 0 } =
      some { done := done, value := byte, digits := (toString byte).length } := by
  have allDigits := List.all_eq_true.mp (byte_isDigit byte bound)
  rw [foldlM_next_digits done _ allDigits]
  have empty := foldlM_next_byte byte bound
  rw [Fields.start] at empty
  rw [empty]
  rfl

theorem foldlM_next_toString_dot (done : List Nat) (byte : Nat)
    (bound : byte < 256) (room : done.length < 3) (rest : List Char) :
    ((toString byte).toList ++ '.' :: rest).foldlM Fields.next
        { done := done, value := 0, digits := 0 } =
      rest.foldlM Fields.next { done := done ++ [byte], value := 0, digits := 0 } := by
  rw [List.foldlM_append, foldlM_next_toString done byte bound]
  simp [Fields.next, Nat.ne_of_lt room]

private theorem formatIPv4_toList (address : Nat) :
    (formatIPv4 address).toList =
      (toString (address / 2 ^ 24 % 256)).toList ++ '.' ::
        ((toString (address / 2 ^ 16 % 256)).toList ++ '.' ::
          ((toString (address / 2 ^ 8 % 256)).toList ++ '.' ::
            (toString (address % 256)).toList)) := by
  have dot : (toString ".").toList = ['.'] := rfl
  simp [formatIPv4, String.toList_append, dot]

theorem parseIPv4Fields_formatIPv4 (address : Nat) (bound : address < 2 ^ 32) :
    parseIPv4Fields (formatIPv4 address).toList = some address := by
  have byteBound (value : Nat) : value % 256 < 256 := Nat.mod_lt _ (by decide)
  rw [parseIPv4Fields, formatIPv4_toList, Fields.start,
    foldlM_next_toString_dot _ _ (byteBound _) (by simp),
    foldlM_next_toString_dot _ _ (byteBound _) (by simp),
    foldlM_next_toString_dot _ _ (byteBound _) (by simp),
    foldlM_next_toString _ _ (byteBound _)]
  simp [Fields.finish]
  omega

private theorem find?_isSeparator_formatIPv4 (address : Nat) :
    (formatIPv4 address).toList.find? isSeparator = some '.' := by
  have digits := List.all_eq_true.mp
    (byte_isDigit (address / 2 ^ 24 % 256) (Nat.mod_lt _ (by decide)))
  have noSeparator :
      (toString (address / 2 ^ 24 % 256)).toList.find? isSeparator = none := by
    rw [List.find?_eq_none]
    intro char member separator
    have isDigit := digits char member
    simp only [isSeparator, Bool.or_eq_true, decide_eq_true_eq] at separator
    rcases separator with (equal | equal) | equal <;> subst equal <;> cases isDigit
  rw [formatIPv4_toList, List.find?_append, noSeparator]
  rfl

theorem parseAddr_formatIPv4 (address : Nat) (bound : address < 2 ^ 32) :
    parseAddr (formatIPv4 address).toList = some (.v4 address) := by
  rw [parseAddr, find?_isSeparator_formatIPv4, parseIPv4Fields_formatIPv4 address bound]
  rfl

@[simp] theorem parseIPTo4_formatIPv4 (address : Nat) (bound : address < 2 ^ 32) :
    parseIPTo4 (formatIPv4 address) = some address := by
  rw [parseIPTo4, parseIP, parseAddr_formatIPv4 address bound]
  exact to4_mapped address bound

theorem formatIPv4_injective {left right : Nat} (leftBound : left < 2 ^ 32)
    (rightBound : right < 2 ^ 32) (equal : formatIPv4 left = formatIPv4 right) :
    left = right := by
  have readBack := parseIPTo4_formatIPv4 left leftBound
  rw [equal, parseIPTo4_formatIPv4 right rightBound] at readBack
  exact (Option.some.inj readBack).symm

theorem formatIPv4_ne_empty (address : Nat) : formatIPv4 address ≠ "" := by
  intro equal
  have characters := formatIPv4_toList address
  simp [equal] at characters

/-! ## Characters of an address -/

private theorem isDigit_or_dot_of_next {fields after : Fields} {char : Char}
    (read : fields.next char = some after) : char.isDigit = true ∨ char = '.' := by
  unfold Fields.next at read
  by_cases isDigit : char.isDigit = true
  · exact .inl isDigit
  · by_cases isDot : char = '.'
    · exact .inr isDot
    · simp [isDigit, isDot] at read

private theorem slash_not_mem_of_foldlM : ∀ (text : List Char) {fields after : Fields},
    text.foldlM Fields.next fields = some after → '/' ∉ text
  | [], _, _, _ => List.not_mem_nil
  | head :: tail, fields, after, read => by
      rw [List.foldlM_cons] at read
      rcases Option.bind_eq_some_iff.mp read with ⟨middle, first, rest⟩
      intro member
      rcases List.mem_cons.mp member with rfl | member
      · rcases isDigit_or_dot_of_next first with isDigit | isDot
        · cases isDigit
        · cases isDot
      · exact slash_not_mem_of_foldlM tail rest member

private theorem slash_not_mem_of_parseIPv4Fields {text : List Char} {address : Nat}
    (parsed : parseIPv4Fields text = some address) : '/' ∉ text := by
  rcases Option.bind_eq_some_iff.mp parsed with ⟨_, read, _⟩
  exact slash_not_mem_of_foldlM text read

private theorem slash_not_mem_takeWhile (text : List Char) :
    '/' ∉ text.takeWhile isHexDigit := by
  intro member
  have hex := List.all_eq_true.mp (List.all_takeWhile (p := isHexDigit) (l := text)) _ member
  cases hex

private theorem slash_not_mem_of_parts {text : List Char}
    (rest : '/' ∉ text.dropWhile isHexDigit) : '/' ∉ text := by
  rw [← List.takeWhile_append_dropWhile (p := isHexDigit) (l := text), List.mem_append]
  exact fun member => member.elim (slash_not_mem_takeWhile text) rest

private theorem slash_not_mem_of_parseGroups : ∀ (room : Nat) {groups : List Nat}
    {ellipsis : Option Nat} {text : List Char} {read : List Nat × Option Nat},
    parseGroups room groups ellipsis text = some read → '/' ∉ text
  | 0, groups, ellipsis, text, read, parsed => by
      unfold parseGroups at parsed
      split at parsed
      · rename_i empty
        rw [empty]
        exact List.not_mem_nil
      · cases parsed
  | room + 1, groups, ellipsis, text, read, parsed => by
      apply slash_not_mem_of_parts
      unfold parseGroups at parsed
      dsimp only at parsed
      split at parsed
      · cases parsed
      · split at parsed
        · rename_i empty
          rw [empty]
          exact List.not_mem_nil
        · split at parsed
          · cases parsed
          · split at parsed
            · cases parsed
            · rcases Option.map_eq_some_iff.mp parsed with ⟨_, fields, _⟩
              exact fun member => slash_not_mem_of_parseIPv4Fields fields
                ((List.dropWhile_sublist _).subset member)
        · cases parsed
        · rename_i rest parts
          split at parsed
          · cases parsed
          · split at parsed
            · rename_i empty
              rw [parts, empty]
              decide
            · have inner := slash_not_mem_of_parseGroups room parsed
              rw [parts]
              simpa using inner
        · rename_i rest _ _ parts
          have inner := slash_not_mem_of_parseGroups room parsed
          rw [parts]
          simpa using inner
        · cases parsed

private theorem slash_not_mem_of_parseIPv6 {text : List Char} {address : Nat}
    (parsed : parseIPv6 text = some address) : '/' ∉ text := by
  unfold parseIPv6 at parsed
  split at parsed
  · cases parsed
  · rcases Option.bind_eq_some_iff.mp parsed with ⟨read, groups, _⟩
    split at groups
    · decide
    · have inner := slash_not_mem_of_parseGroups 8 groups
      simpa using inner
    · exact slash_not_mem_of_parseGroups 8 groups

theorem slash_not_mem_of_parseAddr {text : List Char} {addr : Addr}
    (parsed : parseAddr text = some addr) : '/' ∉ text := by
  unfold parseAddr at parsed
  split at parsed
  · rcases Option.map_eq_some_iff.mp parsed with ⟨_, fields, _⟩
    exact slash_not_mem_of_parseIPv4Fields fields
  · rcases Option.map_eq_some_iff.mp parsed with ⟨_, groups, _⟩
    exact slash_not_mem_of_parseIPv6 groups
  · cases parsed

theorem cut_append {separator : Char} {text : List Char} (rest : List Char)
    (absent : separator ∉ text) : cut separator (text ++ separator :: rest) = some (text, rest) := by
  induction text with
  | nil => simp [cut]
  | cons head tail induction =>
      simp only [List.mem_cons, not_or] at absent
      simp [cut, Ne.symm absent.1, induction absent.2]

theorem mapped_of_to4 {ip address : Nat} (low : to4 ip = some address) : ip = mapped address := by
  unfold to4 at low
  split at low
  · rename_i prefix_eq
    have value := Option.some.inj low
    unfold mapped
    omega
  · cases low

theorem netParseCIDR_own {text : String} {ip : Nat} (readable : parseIPTo4 text = some ip) :
    ∃ network mask, netParseCIDR (text ++ "/24") = some (network, mask) ∧
      (to4 network).getD 0 ≤ ip ∧ ip ≤ (to4 network).getD 0 + (2 ^ 32 - 1 - (to4 mask).getD 0) := by
  rcases Option.bind_eq_some_iff.mp readable with ⟨ip16, parsed, low⟩
  rcases Option.map_eq_some_iff.mp parsed with ⟨addr, read, rfl⟩
  have parts : cut '/' (text ++ "/24").toList = some (text.toList, ['2', '4']) := by
    rw [String.toList_append]
    exact cut_append _ (slash_not_mem_of_parseAddr read)
  have length : decimal ['2', '4'] = some 24 := by decide
  have whole := mapped_of_to4 low
  have low_lt := to4_lt low
  cases addr with
  | v4 value =>
      have same : value = ip := by
        simp only [Addr.as16, mapped] at whole
        omega
      subst same
      refine ⟨mapped (value / 2 ^ 8 * 2 ^ 8), mapped (2 ^ 32 - 2 ^ 8), ?_, ?_⟩
      · rw [netParseCIDR, parts]
        simp only [Option.bind_eq_bind, Option.bind_some, read, length, Addr.bitLen, cidrMask]
        norm_num
      · have networkBound : value / 2 ^ 8 * 2 ^ 8 < 2 ^ 32 := by omega
        rw [to4_mapped _ networkBound, to4_mapped _ (by decide)]
        simp only [Option.getD_some]
        omega
  | v6 value =>
      -- An IPv4-mapped address has no IPv4 network of length 24.
      have small : value / 2 ^ 104 = 0 := by
        simp only [Addr.as16, mapped] at whole
        omega
      have noNetwork : to4 (0 * 2 ^ 104) = none := by decide
      have noMask : to4 (2 ^ 128 - 2 ^ 104) = none := by decide
      refine ⟨value / 2 ^ 104 * 2 ^ 104, 2 ^ 128 - 2 ^ 104, ?_, ?_⟩
      · rw [netParseCIDR, parts]
        simp only [Option.bind_eq_bind, Option.bind_some, read, length, Addr.bitLen, cidrMask]
        norm_num
      · rw [small, noNetwork, noMask]
        simp only [Option.getD_none]
        omega

/-! ## Writing back what was read -/

theorem toString_digit : ∀ digit < 10, (toString digit).toList = [Char.ofNat (48 + digit)] := by
  decide

theorem toString_shift : ∀ value < 26, value ≠ 0 → ∀ digit < 10,
    (toString (value * 10 + digit)).toList = (toString value).toList ++ [Char.ofNat (48 + digit)] := by
  have digits : ∀ value < 26, value ≠ 0 → ∀ digit < 10,
      Nat.toDigits 10 (value * 10 + digit) =
        Nat.toDigits 10 value ++ [Char.ofNat (48 + digit)] := by
    decide
  intro value bound nonzero digit single
  rw [Nat.toString_eq_ofList_toDigits, Nat.toString_eq_ofList_toDigits, String.toList_ofList,
    String.toList_ofList]
  exact digits value bound nonzero digit single

theorem char_of_isDigit {char : Char} (isDigit : char.isDigit = true) :
    ∃ digit < 10, char = Char.ofNat (48 + digit) ∧ char.toNat - '0'.toNat = digit := by
  simp only [Char.isDigit, Bool.and_eq_true, decide_eq_true_eq] at isDigit
  have low : 48 ≤ char.toNat := isDigit.1
  have high : char.toNat ≤ 57 := isDigit.2
  have zero : '0'.toNat = 48 := rfl
  refine ⟨char.toNat - 48, by omega, ?_, by rw [zero]⟩
  have back : 48 + (char.toNat - 48) = char.toNat := by omega
  rw [back, Char.ofNat_toNat]

/-- The text that has been read into the fields. -/
structure Spelled (text : List Char) (fields : Fields) : Prop where
  bytes : ∀ byte ∈ fields.done, byte < 256
  value : fields.value < 256
  text : ∃ last : List Char,
    text = (fields.done.flatMap fun byte => (toString byte).toList ++ ['.']) ++ last ∧
      last.length = fields.digits ∧
      (fields.digits = 0 ∧ fields.value = 0 ∨
        fields.digits ≠ 0 ∧ last = (toString fields.value).toList)

theorem Spelled.next {text : List Char} {fields after : Fields} {char : Char}
    (spelled : Spelled text fields) (read : fields.next char = some after) :
    Spelled (text ++ [char]) after := by
  rcases spelled.text with ⟨last, isText, length, isLast⟩
  unfold Fields.next at read
  split at read
  · rename_i isDigit
    rcases char_of_isDigit isDigit with ⟨digit, single, rfl, isValue⟩
    split at read
    · cases read
    · rename_i noZero
      dsimp only at read
      rw [isValue] at read
      split at read
      · cases read
      · rename_i fits
        cases read
        have small : fields.value * 10 + digit < 256 := Nat.lt_succ_of_le (Nat.le_of_not_lt fits)
        refine ⟨spelled.bytes, small, last ++ [Char.ofNat (48 + digit)], ?_, ?_, .inr ⟨?_, ?_⟩⟩
        · rw [isText, List.append_assoc]
        · rw [List.length_append, length, List.length_singleton]
        · exact Nat.succ_ne_zero _
        · rcases isLast with ⟨none, zero⟩ | ⟨some, isLast⟩
          · rw [List.length_eq_zero_iff.mp (length.trans none), zero]
            simpa using (toString_digit digit single).symm
          · have nonzero : fields.value ≠ 0 := by
              intro zero
              apply noZero
              rw [isLast, zero] at length
              exact ⟨length.symm, zero⟩
            rw [toString_shift fields.value (by omega) nonzero digit single, isLast]
  · split at read
    · rename_i isDot
      split at read
      · cases read
      · rename_i digits
        split at read
        · cases read
        · cases read
          rcases isLast with ⟨none, _⟩ | ⟨_, isLast⟩
          · exact absurd none digits
          · refine ⟨?_, Nat.zero_lt_of_lt spelled.value, [], ?_, rfl, .inl ⟨rfl, rfl⟩⟩
            · intro byte member
              rcases List.mem_append.mp member with old | new
              · exact spelled.bytes byte old
              · rw [List.mem_singleton.mp new]
                exact spelled.value
            · rw [isText, isLast, isDot, List.flatMap_append]
              simp
    · cases read

theorem Spelled.foldlM : ∀ (rest : List Char) {text : List Char} {fields after : Fields},
    Spelled text fields → rest.foldlM Fields.next fields = some after →
    Spelled (text ++ rest) after
  | [], text, _, _, spelled, read => by
      cases read
      rw [List.append_nil]
      exact spelled
  | char :: rest, text, fields, after, spelled, read => by
      rw [List.foldlM_cons] at read
      rcases Option.bind_eq_some_iff.mp read with ⟨middle, first, later⟩
      have whole := Spelled.foldlM rest (spelled.next first) later
      rwa [List.append_assoc] at whole

theorem formatIPv4_of_parseIPv4Fields {text : List Char} {address : Nat}
    (parsed : parseIPv4Fields text = some address) :
    address < 2 ^ 32 ∧ (formatIPv4 address).toList = text := by
  rcases Option.bind_eq_some_iff.mp parsed with ⟨fields, read, finished⟩
  have start : Spelled [] Fields.start :=
    ⟨fun _ member => absurd member List.not_mem_nil, by decide, [], rfl, rfl, .inl ⟨rfl, rfl⟩⟩
  have spelled := Spelled.foldlM text start read
  rw [List.nil_append] at spelled
  rcases spelled.text with ⟨last, isText, _, isLast⟩
  unfold Fields.finish at finished
  split at finished
  · rename_i first second third isDone
    split at finished
    · cases finished
    · rename_i digits
      have isAddress := Option.some.inj finished
      have bytes := spelled.bytes
      have small := spelled.value
      simp only [isDone, List.mem_cons, List.not_mem_nil, or_false, forall_eq_or_imp,
        forall_eq] at bytes
      rcases bytes with ⟨firstSmall, secondSmall, thirdSmall⟩
      rcases isLast with ⟨none, _⟩ | ⟨_, isLast⟩
      · exact absurd none digits
      · have one : address / 2 ^ 24 % 256 = first := by omega
        have two : address / 2 ^ 16 % 256 = second := by omega
        have three : address / 2 ^ 8 % 256 = third := by omega
        have four : address % 256 = fields.value := by omega
        refine ⟨by omega, ?_⟩
        rw [formatIPv4_toList, one, two, three, four, isText, isDone, isLast]
        simp
  · cases finished

theorem eq_formatIPv4_of_parseIPTo4 {text : String} {address : Nat} (plain : ':' ∉ text.toList)
    (parsed : parseIPTo4 text = some address) : text = formatIPv4 address := by
  rcases Option.bind_eq_some_iff.mp parsed with ⟨ip, read, low⟩
  rcases Option.map_eq_some_iff.mp read with ⟨addr, readAddr, rfl⟩
  unfold parseAddr at readAddr
  split at readAddr
  · rcases Option.map_eq_some_iff.mp readAddr with ⟨value, fields, rfl⟩
    rcases formatIPv4_of_parseIPv4Fields fields with ⟨small, spelled⟩
    rw [Addr.as16, to4_mapped value small] at low
    rw [← Option.some.inj low]
    apply String.toList_injective
    exact spelled.symm
  · rename_i colon
    exact absurd (List.mem_of_find?_eq_some colon) plain
  · cases readAddr

end HomelabBuilder.Net
