import HomelabBuilder.Gaming.Compose
import HomelabBuilder.Gaming.Registry

/-! # Variables of compose files

`BuildHostCompose`: the environment of each game server, with a variable of the
service's own for every value the owner fills in.
-/

namespace HomelabBuilder.Gaming

/-! ## Texts -/

/-- What `placeholderPattern` finds in a text: characters as they are, and the names
in `${NAME}`. -/
inductive Piece
  | literal (char : Char)
  | placeholder (name : List Char)

/-- How far a `${NAME}` has been read, the name in reverse. -/
inductive Reading
  | nothing
  | dollar
  | name (chars : List Char)

def isWordChar (char : Char) : Bool := char.isAlphanum || char = '_'

/-- What was read turns out to be no placeholder. -/
def Reading.pieces : Reading → List Piece
  | .nothing => []
  | .dollar => [.literal '$']
  | .name chars => (['$', '\x7b'] ++ chars.reverse).map Piece.literal

def pieces : Reading → List Char → List Piece
  | reading, [] => reading.pieces
  | .name chars, char :: rest =>
      if isWordChar char then pieces (.name (char :: chars)) rest
      else if char = '\x7d' ∧ chars ≠ [] then .placeholder chars.reverse :: pieces .nothing rest
      else if char = '$' then (Reading.name chars).pieces ++ pieces .dollar rest
      else (Reading.name chars).pieces ++ .literal char :: pieces .nothing rest
  | .dollar, char :: rest =>
      if char = '\x7b' then pieces (.name []) rest
      else if char = '$' then .literal '$' :: pieces .dollar rest
      else .literal '$' :: .literal char :: pieces .nothing rest
  | .nothing, char :: rest =>
      if char = '$' then pieces .dollar rest else .literal char :: pieces .nothing rest

def Piece.name : Piece → Option (List Char)
  | .literal _ => none
  | .placeholder name => some name

/-- The names of all `${NAME}` in a text. -/
def placeholders (text : String) : List String :=
  ((pieces .nothing text.toList).filterMap Piece.name).map String.ofList

/-- `strings.ReplaceAll`; the number is how many characters of a match are left. -/
def replaceChars (old new : List Char) : Nat → List Char → List Char
  | _, [] => []
  | skip + 1, _ :: rest => replaceChars old new skip rest
  | 0, char :: rest =>
      if old.isPrefixOf (char :: rest) then new ++ replaceChars old new (old.length - 1) rest
      else char :: replaceChars old new 0 rest

def replaceAll (text old new : String) : String :=
  String.ofList (replaceChars old.toList new.toList 0 text.toList)

/-! ## Environments -/

/-- `strings.ToUpper(strings.ReplaceAll(key, "-", "_"))` of a key. -/
def upperKey (key : String) : List Char :=
  key.toList.map fun char => if char = '-' then '_' else char.toUpper

def variableName (key : String) (name : List Char) : List Char := upperKey key ++ '_' :: name

def Piece.renamed (key : String) : Piece → List Char
  | .literal char => [char]
  | .placeholder name => ['$', '\x7b'] ++ variableName key name ++ ['\x7d']

/-- A line of the profile with the values of the plan, before its placeholders are
replaced. -/
def filledLine (game : Instance) (profile : Profile) (line : String) : String × String :=
  let name := line.toList.takeWhile (· ≠ '=')
  let value := (line.toList.dropWhile (· ≠ '=')).drop 1
  let withPlayers := replaceAll (String.ofList value) "\x7bplayers\x7d" (toString game.players)
  (String.ofList name, replaceAll withPlayers "\x7bram_mb\x7d" (toString (profile.ramMB game.players)))

/-- Placeholders become variables of the service. -/
def ownVariables (key value : String) : String :=
  String.ofList ((pieces .nothing value.toList).flatMap (Piece.renamed key))

def environment (key : String) (game : Instance) (entry : RegistryEntry) : List (String × String) :=
  let lines := (entry.env.map (filledLine game entry.toProfile)).foldl
    (fun settings line => Table.set settings line.1 (ownVariables key line.2)) []
  if entry.announcesPorts then
    ((entry.resolvePorts game.portOffset).filter fun port => port.env ≠ "").foldl
      (fun settings port => Table.set settings port.env (toString port.port)) lines
  else lines

/-- Keeps each server's data in a folder of its own. -/
def ownVolume (key volume : String) : String :=
  match FirstFit.pick (fun split : List Char × List Char => ['.', '/'].isPrefixOf split.2)
      (volume.toList.inits.zip volume.toList.tails) with
  | some (before, after) =>
      String.ofList (before ++ ("./" ++ key ++ "/").toList ++ after.drop 2)
  | none => volume

/-! ## Files -/

structure ComposeEntry extends ComposeService where
  environment : List (String × String)
  volumes : List String

/-- The services of a file and the lines of the example for its `.env`. -/
structure ComposeFile where
  services : List ComposeEntry
  envExample : List String

/-- The variables a server's lines ask for, in their order. -/
def askedFor (key : String) (game : Instance) (entry : RegistryEntry) : List String :=
  (entry.env.map (filledLine game entry.toProfile)).flatMap fun line =>
    (placeholders line.2).map fun name => String.ofList (variableName key name.toList)

def composeEntry (key : String) (game : Instance) (entry : RegistryEntry) : ComposeEntry where
  key := key
  image := entry.image
  ports := composePorts entry.toProfile game.portOffset
  environment := environment key game entry
  volumes := entry.volumes.map (ownVolume key)

/-- The servers that are written, with their keys. -/
def written (used : List String) : List ComposeServer → List (String × Instance × RegistryEntry)
  | [] => []
  | server :: rest =>
      match server.game.normalize (fun slug => (profileBySlug slug).map RegistryEntry.toProfile),
          profileBySlug server.game.profile with
      | .ok (game, profile), some entry =>
          if profile.image = "" then written used rest
          else
            let key := composeServiceName server.name used
            (key, game, entry) :: written (key :: used) rest
      | _, _ => written used rest

def composeFile (servers : List ComposeServer) : ComposeFile where
  services := (written [] servers).map fun entry => composeEntry entry.1 entry.2.1 entry.2.2
  envExample := (written [] servers).flatMap fun entry => askedFor entry.1 entry.2.1 entry.2.2

end HomelabBuilder.Gaming

/-! # Whose variable it is

The variables of a compose file belong to one service each where no service key
extends another by the start of a placeholder.
-/

namespace HomelabBuilder.Gaming

/-! ## Reading placeholders -/

theorem pieces_of_dollar_free : ∀ {text : List Char}, '$' ∉ text →
    pieces .nothing text = text.map Piece.literal
  | [], _ => rfl
  | char :: rest, free => by
      have different : char ≠ '$' := fun same => free (same ▸ List.mem_cons_self)
      have later : '$' ∉ rest := fun listed => free (List.mem_cons_of_mem _ listed)
      rw [pieces, if_neg different, pieces_of_dollar_free later]
      rfl

theorem pieces_name {rest : List Char} : ∀ {name chars : List Char},
    (∀ char ∈ name, isWordChar char = true) → chars ++ name ≠ [] →
      pieces (.name chars) (name ++ '\x7d' :: rest) =
        .placeholder (chars.reverse ++ name) :: pieces .nothing rest
  | [], chars, _, nonempty => by
      rw [List.append_nil] at nonempty ⊢
      have close : isWordChar '\x7d' = false := rfl
      rw [List.nil_append, pieces, if_neg (by rw [close]; exact Bool.false_ne_true),
        if_pos ⟨rfl, nonempty⟩]
  | char :: name, chars, word, _ => by
      rw [List.cons_append, pieces, if_pos (word char List.mem_cons_self),
        pieces_name (fun other listed => word other (List.mem_cons_of_mem _ listed)) (by simp)]
      simp

theorem pieces_placeholder {name : List Char} (word : ∀ char ∈ name, isWordChar char = true)
    (nonempty : name ≠ []) :
    pieces .nothing ('$' :: '\x7b' :: name ++ ['\x7d']) = [.placeholder name] := by
  have read : pieces (.name []) (name ++ ['\x7d']) = [.placeholder name] :=
    pieces_name word nonempty
  rw [List.cons_append, List.cons_append, pieces, if_pos rfl, pieces, if_pos rfl, read]

theorem replaceChars_of_absent (old new : List Char) : ∀ {text : List Char},
    text.tails.any old.isPrefixOf = false → replaceChars old new 0 text = text
  | [], _ => rfl
  | char :: rest, absent => by
      rw [List.tails, List.any_cons, Bool.or_eq_false_iff] at absent
      rw [replaceChars, if_neg (by rw [absent.1]; exact Bool.false_ne_true),
        replaceChars_of_absent old new absent.2]

theorem not_mem_replaceChars {old new : List Char} {char : Char} (fresh : char ∉ new) :
    ∀ (skip : Nat) {text : List Char}, char ∉ text → char ∉ replaceChars old new skip text
  | 0, [], _ => List.not_mem_nil
  | _ + 1, [], _ => List.not_mem_nil
  | skip + 1, first :: rest, absent =>
      not_mem_replaceChars fresh skip fun listed => absent (List.mem_cons_of_mem _ listed)
  | 0, first :: rest, absent => by
      have later : char ∉ rest := fun listed => absent (List.mem_cons_of_mem _ listed)
      rw [replaceChars]
      split
      · rw [List.mem_append]
        exact fun listed => listed.elim fresh (not_mem_replaceChars fresh _ later)
      · rw [List.mem_cons]
        rintro (same | listed)
        · exact absent (same ▸ List.mem_cons_self)
        · exact not_mem_replaceChars fresh 0 later listed

/-! ## Keys -/

def keyChars : List Char := "abcdefghijklmnopqrstuvwxyz0123456789-".toList

structure IsKey (key : List Char) : Prop where
  chars : ∀ char ∈ key, char ∈ keyChars
  first : ∃ char rest, key = char :: rest ∧ char ≠ '-'

def upperChar (char : Char) : Char := if char = '-' then '_' else char.toUpper

def lowerChar (char : Char) : Char := if char = '_' then '-' else char.toLower

theorem lowerChar_upperChar : ∀ char ∈ keyChars, lowerChar (upperChar char) = char := by
  have all : (keyChars.all fun char => lowerChar (upperChar char) = char) = true := by
    decide
  exact fun char key => of_decide_eq_true (List.all_eq_true.mp all char key)

theorem upperChar_eq_underscore : ∀ char ∈ keyChars, upperChar char = '_' → char = '-' := by
  have all : (keyChars.all fun char => upperChar char = '_' → char = '-') = true := by
    decide
  exact fun char key => of_decide_eq_true (List.all_eq_true.mp all char key)

theorem isWordChar_upperChar : ∀ char ∈ keyChars, isWordChar (upperChar char) = true := by
  have all : (keyChars.all fun char => isWordChar (upperChar char) = true) = true := by
    decide
  exact fun char key => of_decide_eq_true (List.all_eq_true.mp all char key)

theorem isAlpha_upperChar : ∀ char ∈ keyChars, char ≠ '-' →
    ((upperChar char).isAlpha = true ↔ char.isDigit = false) ∧ upperChar char ≠ '_' := by
  have all : (keyChars.all fun char => char ≠ '-' →
      ((upperChar char).isAlpha = true ↔ char.isDigit = false) ∧ upperChar char ≠ '_') = true := by
    decide
  exact fun char key => of_decide_eq_true (List.all_eq_true.mp all char key)

theorem mem_keyChars {char : Char} (plain : char.isLower || char.isDigit || char = '-') :
    char ∈ keyChars := by
  have low : ∀ code < 128, ((Char.ofNat code).isLower || (Char.ofNat code).isDigit ||
      Char.ofNat code = '-') = true → Char.ofNat code ∈ keyChars := by decide
  have small : char.toNat < 128 := by
    delta Char.isLower Char.isDigit at plain
    simp only [Bool.or_eq_true, Bool.and_eq_true, decide_eq_true_eq] at plain
    rcases plain with (letter | digit) | dash
    · have bound : char.toNat ≤ 122 := letter.2
      omega
    · have bound : char.toNat ≤ 57 := digit.2
      omega
    · rw [dash]
      decide
  have listed := low char.toNat small
  rw [Char.ofNat_toNat] at listed
  exact listed plain

theorem mem_keyChars_of_isDigit {char : Char} (digit : char.isDigit = true) : char ∈ keyChars :=
  mem_keyChars (by simp [digit])

theorem slugChar_mem {char slug : Char} (kept : slugChar char = some slug) :
    slug ∈ keyChars ∧ slug ≠ '-' := by
  rw [slugChar] at kept
  generalize (if char.toNat = 0x212A then 'k' else
    if char.toNat = 0x130 then 'i' else char.toLower) = lower at kept
  split at kept
  case isTrue plain =>
    rw [Option.some.injEq] at kept
    rw [kept] at plain
    refine ⟨mem_keyChars (by simp only [plain, Bool.true_or]), ?_⟩
    rintro rfl
    exact Bool.false_ne_true plain
  case isFalse => cases kept

theorem slugChars_mem : ∀ {chars : List Char}, ∀ char ∈ slugChars chars, char ∈ keyChars
  | [], char, listed => by cases listed
  | first :: rest, char, listed => by
      have dash : '-' ∈ keyChars := by decide
      rw [slugChars] at listed
      split at listed
      case h_1 slug kept =>
        rcases List.mem_cons.mp listed with rfl | later
        · exact (slugChar_mem kept).1
        · exact slugChars_mem char later
      case h_2 =>
        split at listed
        case h_1 more slugged =>
          apply slugChars_mem char
          rw [slugged]
          exact listed
        case h_2 =>
          rcases List.mem_cons.mp listed with rfl | later
          · exact dash
          · exact slugChars_mem char later

theorem trimDashes_mem {chars : List Char} {char : Char} (listed : char ∈ trimDashes chars) :
    char ∈ chars := by
  rw [trimDashes, List.mem_reverse] at listed
  have front := (List.dropWhile_sublist _).subset listed
  exact (List.dropWhile_sublist _).subset (List.mem_reverse.mp front)

theorem trimDashes_first {chars rest : List Char} {char : Char}
    (split : trimDashes chars = char :: rest) : char ≠ '-' := by
  rintro rfl
  have front : (chars.dropWhile (· = '-')).head? = some '-' := by
    have whole : trimDashes chars <+: chars.dropWhile (· = '-') := by
      rw [trimDashes, ← List.reverse_suffix, List.reverse_reverse]
      exact List.dropWhile_suffix _
    rw [split] at whole
    rcases whole with ⟨more, same⟩
    rw [← same]
    rfl
  have stopped := List.head?_dropWhile_not (fun char => decide (char = '-')) chars
  rw [front] at stopped
  exact absurd stopped (by decide)

theorem IsKey.append {key more : List Char} (isKey : IsKey key)
    (chars : ∀ char ∈ more, char ∈ keyChars) : IsKey (key ++ more) where
  chars char listed := (List.mem_append.mp listed).elim (isKey.chars char) (chars char)
  first := by
    rcases isKey.first with ⟨char, rest, rfl, plain⟩
    exact ⟨char, rest ++ more, rfl, plain⟩

theorem isKey_composeServiceBase (name : String) : IsKey (composeServiceBase name).toList := by
  unfold composeServiceBase
  cases trimmed : trimDashes (slugChars name.toList) with
  | nil =>
      rw [if_pos (by rw [String.ofList_eq_empty_iff])]
      have all : ("server".toList.all fun char => char ∈ keyChars) = true := by decide
      exact ⟨fun char listed => of_decide_eq_true (List.all_eq_true.mp all char listed),
        's', _, rfl, by decide⟩
  | cons char rest =>
      rw [if_neg (by simp), String.toList_ofList]
      refine ⟨?_, char, rest, rfl, trimDashes_first trimmed⟩
      intro other listed
      rw [← trimmed] at listed
      exact slugChars_mem other (trimDashes_mem listed)

theorem isKey_composeServiceName (name : String) (used : List String) :
    IsKey (composeServiceName name used).toList := by
  have base := isKey_composeServiceBase name
  rw [composeServiceName, freshName]
  generalize composeServiceBase name = slug at base ⊢
  cases picked : FirstFit.pick (fun name => decide (name ∉ used))
      (slug :: (List.range' 2 used.length).map fun n => slug ++ "-" ++ toString n) with
  | none => exact base
  | some key =>
      rcases List.mem_cons.mp (FirstFit.mem_of_pick picked) with rfl | numbered
      · exact base
      · rcases List.mem_map.mp numbered with ⟨n, _, rfl⟩
        rw [Option.getD_some, String.toList_append, String.toList_append, List.append_assoc]
        apply base.append
        intro char listed
        rcases List.mem_append.mp listed with dash | digit
        · rw [show "-".toList = ['-'] from rfl, List.mem_singleton] at dash
          rw [dash]
          decide
        · rw [Nat.toString_eq_ofList_toDigits, String.toList_ofList] at digit
          exact mem_keyChars_of_isDigit
            (Nat.isDigit_of_mem_toDigits (by decide) (by decide) digit)

end HomelabBuilder.Gaming
