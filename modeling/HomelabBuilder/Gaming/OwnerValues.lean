import Mathlib.Data.List.Infix
import HomelabBuilder.Foundation.Rows
import HomelabBuilder.Gaming.ComposeFile

/-! # Values of owners

Which variables a service of a compose file asks for, entry by entry of the registry.
-/

namespace HomelabBuilder.Gaming

/-! ## Lines of the registry -/

def lineName (line : String) : List Char := line.toList.takeWhile (· ≠ '=')

def lineValue (line : String) : List Char := (line.toList.dropWhile (· ≠ '=')).drop 1

def ownerValue (line : String) : Option (List Char) :=
  match pieces .nothing (lineValue line) with
  | [.placeholder name] => some name
  | _ => none

def RegistryEntry.ownerValues (entry : RegistryEntry) : List (List Char) :=
  entry.env.filterMap ownerValue

/-- A line's value is a text without variables, or one variable. -/
def isPlainLine (line : String) : Bool :=
  match ownerValue line with
  | none => '$' ∉ lineValue line
  | some name =>
      lineValue line = '$' :: '\x7b' :: name ++ ['\x7d'] && name ≠ [] &&
        name.all isWordChar &&
        !(lineValue line).tails.any "\x7bplayers\x7d".toList.isPrefixOf &&
        !(lineValue line).tails.any "\x7bram_mb\x7d".toList.isPrefixOf

/-- What all entries of the registry have in common. -/
structure RegistryEntry.IsPlain (entry : RegistryEntry) : Prop where
  lines : ∀ line ∈ entry.env, isPlainLine line = true
  settings : ∀ line ∈ entry.env, '$' ∉ lineName line
  portSettings : ∀ spec ∈ entry.ports, '$' ∉ spec.env.toList
  names : (entry.env.map lineName).Nodup
  ports : ∀ spec ∈ entry.ports, ∀ line ∈ entry.env, lineName line ≠ spec.env.toList
  values : entry.ownerValues.Nodup
  image : '$' ∉ entry.image.toList
  volumes : ∀ volume ∈ entry.volumes, '$' ∉ volume.toList

theorem dollar_not_mem_of_bytes {text : String} (free : 36 ∉ text.toByteArray.data.toList) :
    '$' ∉ text.toList := by
  intro listed
  apply free
  rw [← String.utf8Encode_toList, List.utf8Encode, List.toList_data_toByteArray]
  exact List.mem_flatMap.mpr ⟨'$', listed, by decide⟩

theorem isPlain_registry : ∀ entry ∈ registry, entry.IsPlain := by
  have lines : ∀ entry ∈ registry,
      (∀ line ∈ entry.env, isPlainLine line = true) ∧ (∀ line ∈ entry.env, '$' ∉ lineName line) ∧
        (entry.env.map lineName).Nodup ∧
        (∀ spec ∈ entry.ports, ∀ line ∈ entry.env, lineName line ≠ spec.env.toList) ∧
        entry.ownerValues.Nodup := by
    decide +kernel
  have texts : ∀ entry ∈ registry,
      (∀ spec ∈ entry.ports, 36 ∉ spec.env.toByteArray.data.toList) ∧
        36 ∉ entry.image.toByteArray.data.toList ∧
        ∀ volume ∈ entry.volumes, 36 ∉ volume.toByteArray.data.toList := by
    decide +kernel
  intro entry listed
  rcases lines entry listed with ⟨plain, settings, names, ports, values⟩
  rcases texts entry listed with ⟨portSettings, image, volumes⟩
  exact
    { lines := plain
      settings := settings
      portSettings := fun spec member => dollar_not_mem_of_bytes (portSettings spec member)
      names := names
      ports := ports
      values := values
      image := dollar_not_mem_of_bytes image
      volumes := fun volume member => dollar_not_mem_of_bytes (volumes volume member) }

/-! ## What a service asks for -/

def ownVariable (key : String) (name : List Char) : String :=
  String.ofList (variableName key name)

def RegistryEntry.variables (entry : RegistryEntry) (key : String) : List String :=
  entry.ownerValues.map (ownVariable key)

theorem dollar_not_mem_toString (number : Int) : '$' ∉ (toString number).toList := by
  have digits : ∀ number : Nat, '$' ∉ (toString number).toList := by
    intro number listed
    rw [Nat.toString_eq_ofList_toDigits, String.toList_ofList] at listed
    exact absurd (Nat.isDigit_of_mem_toDigits (by decide) (by decide) listed) (by decide)
  cases number with
  | ofNat number => exact digits number
  | negSucc number =>
      have written : toString (Int.negSucc number) = "-" ++ toString (number + 1) := rfl
      rw [written, String.toList_append]
      intro listed
      rcases List.mem_append.mp listed with dash | digit
      · exact absurd dash (by decide)
      · exact digits _ digit

theorem toList_filledLine (game : Instance) (profile : Profile) (line : String) :
    (filledLine game profile line).2.toList =
      replaceChars "\x7bram_mb\x7d".toList (toString (profile.ramMB game.players)).toList 0
        (replaceChars "\x7bplayers\x7d".toList (toString game.players).toList 0
          (lineValue line)) := by
  simp only [filledLine, replaceAll, String.toList_ofList]
  rfl

theorem dollar_not_mem_filledLine (game : Instance) (profile : Profile) {line : String}
    (plain : isPlainLine line = true) (owner : ownerValue line = none) :
    '$' ∉ (filledLine game profile line).2.toList := by
  unfold isPlainLine at plain
  rw [owner] at plain
  have free : '$' ∉ lineValue line := of_decide_eq_true plain
  rw [toList_filledLine]
  apply not_mem_replaceChars (dollar_not_mem_toString _)
  exact not_mem_replaceChars (dollar_not_mem_toString _) 0 free

theorem word_of_owner {line : String} (plain : isPlainLine line = true) {name : List Char}
    (owner : ownerValue line = some name) :
    name ≠ [] ∧ ∀ char ∈ name, isWordChar char = true := by
  unfold isPlainLine at plain
  rw [owner] at plain
  simp only [Bool.and_eq_true, decide_eq_true_eq, List.all_eq_true] at plain
  exact ⟨plain.1.1.1.2, plain.1.1.2⟩

theorem filledLine_of_owner (game : Instance) (profile : Profile) {line : String}
    (plain : isPlainLine line = true) {name : List Char} (owner : ownerValue line = some name) :
    (filledLine game profile line).2.toList = '$' :: '\x7b' :: name ++ ['\x7d'] := by
  unfold isPlainLine at plain
  rw [owner] at plain
  simp only [Bool.and_eq_true, decide_eq_true_eq, Bool.not_eq_true'] at plain
  rcases plain with ⟨⟨⟨⟨written, _⟩, _⟩, players⟩, ram⟩
  rw [toList_filledLine, replaceChars_of_absent _ _ players, replaceChars_of_absent _ _ ram,
    written]

theorem filterMap_literal (chars : List Char) :
    (chars.map Piece.literal).filterMap Piece.name = [] := by
  rw [List.filterMap_map]
  exact List.filterMap_eq_nil_iff.mpr fun _ _ => rfl

theorem placeholders_of_dollar_free {text : String} (free : '$' ∉ text.toList) :
    placeholders text = [] := by
  rw [placeholders, pieces_of_dollar_free free, filterMap_literal]
  rfl

theorem placeholders_filledLine (game : Instance) (profile : Profile) {line : String}
    (plain : isPlainLine line = true) :
    placeholders (filledLine game profile line).2 =
      (ownerValue line).toList.map String.ofList := by
  cases owner : ownerValue line with
  | none => exact placeholders_of_dollar_free (dollar_not_mem_filledLine game profile plain owner)
  | some name =>
      rcases word_of_owner plain owner with ⟨nonempty, word⟩
      rw [placeholders, filledLine_of_owner game profile plain owner,
        pieces_placeholder word nonempty]
      rfl

theorem askedFor_eq (key : String) (game : Instance) {entry : RegistryEntry}
    (plain : entry.IsPlain) : askedFor key game entry = entry.variables key := by
  rw [askedFor, RegistryEntry.variables, RegistryEntry.ownerValues, List.flatMap_map,
    List.map_filterMap, List.filterMap_eq_flatMap_toList]
  apply List.flatMap_congr
  intro line listed
  rw [placeholders_filledLine game entry.toProfile (plain.lines line listed)]
  cases ownerValue line with
  | none => rfl
  | some name =>
      rw [Option.toList_some, List.map_singleton, List.map_singleton, String.toList_ofList]
      rfl

theorem isWordChar_variableName {key : String} (isKey : IsKey key.toList) {name : List Char}
    (word : ∀ char ∈ name, isWordChar char = true) :
    ∀ char ∈ variableName key name, isWordChar char = true := by
  intro char listed
  rcases List.mem_append.mp listed with upper | rest
  · rcases List.mem_map.mp upper with ⟨plain, inKey, rfl⟩
    exact isWordChar_upperChar plain (isKey.chars plain inKey)
  · rcases List.mem_cons.mp rest with rfl | later
    · rfl
    · exact word char later

theorem flatMap_renamed_literal (key : String) (chars : List Char) :
    (chars.map Piece.literal).flatMap (Piece.renamed key) = chars := by
  induction chars with
  | nil => rfl
  | cons char rest induction =>
      rw [List.map_cons, List.flatMap_cons, induction]
      rfl

theorem placeholders_ownVariables {key : String} (isKey : IsKey key.toList) (game : Instance)
    (profile : Profile) {line : String} (plain : isPlainLine line = true) :
    placeholders (ownVariables key (filledLine game profile line).2) =
      (ownerValue line).toList.map (ownVariable key) := by
  cases owner : ownerValue line with
  | none =>
      have free := dollar_not_mem_filledLine game profile plain owner
      apply placeholders_of_dollar_free
      rw [ownVariables, String.toList_ofList, pieces_of_dollar_free free, flatMap_renamed_literal]
      exact free
  | some name =>
      rcases word_of_owner plain owner with ⟨nonempty, word⟩
      have renamed : [Piece.placeholder name].flatMap (Piece.renamed key) =
          '$' :: '\x7b' :: variableName key name ++ ['\x7d'] := by
        rw [List.flatMap_singleton]
        rfl
      rw [placeholders, ownVariables, filledLine_of_owner game profile plain owner,
        pieces_placeholder word nonempty, String.toList_ofList, renamed,
        pieces_placeholder (isWordChar_variableName isKey word) (by simp [variableName])]
      rfl

/-! ## Environments -/

/-- The variables in the values of an environment. -/
def asking (settings : List (String × String)) : List String :=
  settings.flatMap fun setting => placeholders setting.2

theorem asking_set {key value : String} (own : placeholders value = []) :
    ∀ {settings : List (String × String)},
      (∀ setting ∈ settings, setting.1 = key → placeholders setting.2 = []) →
        asking (Table.set settings key value) = asking settings
  | [], _ => by
      rw [asking, Table.set, List.flatMap_singleton, own]
      rfl
  | (first, old) :: rest, free => by
      rw [Table.set]
      split
      case isTrue same =>
        rw [asking, asking, List.flatMap_cons, List.flatMap_cons, own,
          free _ List.mem_cons_self same]
      case isFalse =>
        have later := asking_set own fun setting listed =>
          free setting (List.mem_cons_of_mem _ listed)
        rw [asking, List.flatMap_cons, ← asking, later, asking, asking, List.flatMap_cons]

theorem asking_foldl_ports : ∀ (ports : List ResolvedPort) {settings : List (String × String)},
    (∀ port ∈ ports, ∀ setting ∈ settings, setting.1 = port.env → placeholders setting.2 = []) →
      asking (ports.foldl (fun settings port => Table.set settings port.env (toString port.port))
        settings) = asking settings
  | [], _, _ => rfl
  | port :: rest, settings, free => by
      have own : placeholders (toString port.port) = [] :=
        placeholders_of_dollar_free (dollar_not_mem_toString _)
      rw [List.foldl_cons, asking_foldl_ports rest,
        asking_set own (free port List.mem_cons_self)]
      intro other listed setting member same
      rcases Table.mem_set member with rfl | old
      · exact own
      · exact free other (List.mem_cons_of_mem _ listed) setting old same

theorem asking_environment {key : String} (isKey : IsKey key.toList) (game : Instance)
    {entry : RegistryEntry} (plain : entry.IsPlain) :
    asking (environment key game entry) = entry.variables key := by
  let settings := entry.env.map fun line =>
    (String.ofList (lineName line), ownVariables key (filledLine game entry.toProfile line).2)
  have names : (([] ++ settings).map Prod.fst).Nodup := by
    have distinct := plain.names.map fun _ _ => String.ofList_injective
    rw [List.map_map] at distinct
    rw [List.nil_append, List.map_map]
    exact distinct
  have lines : (entry.env.map (filledLine game entry.toProfile)).foldl
      (fun settings line => Table.set settings line.1 (ownVariables key line.2)) [] = settings := by
    have written := Table.foldl_set_of_fresh settings names
    rw [List.foldl_map] at written ⊢
    exact written
  have values : asking settings = entry.variables key := by
    rw [asking, List.flatMap_map, RegistryEntry.variables, RegistryEntry.ownerValues,
      List.map_filterMap, List.filterMap_eq_flatMap_toList]
    apply List.flatMap_congr
    intro line listed
    rw [placeholders_ownVariables isKey game entry.toProfile (plain.lines line listed)]
    cases ownerValue line <;> rfl
  rw [environment, lines]
  split
  · rw [asking_foldl_ports, values]
    intro port listed setting member same
    rcases List.mem_map.mp member with ⟨line, inLines, rfl⟩
    rcases List.mem_map.mp (List.mem_of_mem_filter listed) with ⟨spec, inPorts, rfl⟩
    exact absurd (congrArg String.toList same)
      (by rw [String.toList_ofList]; exact plain.ports spec inPorts line inLines)
  · exact values

theorem dollar_not_mem_environment (key : String) (game : Instance) {entry : RegistryEntry}
    (plain : entry.IsPlain) :
    ∀ setting ∈ environment key game entry, '$' ∉ setting.1.toList := by
  have kept : ∀ {α : Type} (name value : α → String) (items : List α)
      (settings : List (String × String)), (∀ item ∈ items, '$' ∉ (name item).toList) →
        (∀ setting ∈ settings, '$' ∉ setting.1.toList) →
        ∀ setting ∈ items.foldl (fun settings item => Table.set settings (name item) (value item))
          settings, '$' ∉ setting.1.toList := by
    intro α name value items
    induction items with
    | nil => exact fun _ _ old => old
    | cons item rest induction =>
        intro settings free old
        apply induction
        · exact fun other listed => free other (List.mem_cons_of_mem _ listed)
        · intro setting listed
          rcases Table.mem_set listed with rfl | before
          · exact free item List.mem_cons_self
          · exact old setting before
  have lines := kept Prod.fst (fun line => ownVariables key line.2)
    (entry.env.map (filledLine game entry.toProfile)) []
    (by
      intro filled listed
      rcases List.mem_map.mp listed with ⟨line, inLines, rfl⟩
      have named : (filledLine game entry.toProfile line).1.toList = lineName line :=
        String.toList_ofList
      rw [named]
      exact plain.settings line inLines)
    (List.forall_mem_nil _)
  rw [environment]
  split
  · apply kept (fun port : ResolvedPort => port.env) (fun port => toString port.port) _ _ _ lines
    intro port listed
    rcases List.mem_map.mp (List.mem_of_mem_filter listed) with ⟨spec, inPorts, rfl⟩
    exact plain.portSettings spec inPorts
  · exact lines

/-! ## Services -/

/-- The texts of a service that `docker compose` reads. -/
def ComposeEntry.texts (service : ComposeEntry) : List String :=
  service.key :: service.image ::
    (service.environment.flatMap fun setting => [setting.1, setting.2]) ++ service.volumes

def ComposeEntry.variables (service : ComposeEntry) : List String :=
  service.texts.flatMap placeholders

theorem dollar_not_mem_key {key : String} (isKey : IsKey key.toList) : '$' ∉ key.toList :=
  fun listed => absurd (isKey.chars '$' listed) (by decide)

theorem dollar_not_mem_ownVolume {key volume : String} (isKey : IsKey key.toList)
    (plain : '$' ∉ volume.toList) : '$' ∉ (ownVolume key volume).toList := by
  rw [ownVolume]
  split
  case h_1 before after picked =>
    have parts := List.of_mem_zip (FirstFit.mem_of_pick picked)
    rw [String.toList_ofList, String.toList_append, String.toList_append]
    simp only [List.mem_append, not_or]
    refine ⟨⟨?_, ⟨by decide, dollar_not_mem_key isKey⟩, by decide⟩, ?_⟩
    · exact fun listed => plain ((List.mem_inits _ _).mp parts.1 |>.subset listed)
    · exact fun listed =>
        plain ((List.mem_tails _ _).mp parts.2 |>.subset (List.mem_of_mem_drop listed))
  case h_2 => exact plain

theorem variables_composeEntry {key : String} (isKey : IsKey key.toList) (game : Instance)
    {entry : RegistryEntry} (plain : entry.IsPlain) :
    (composeEntry key game entry).variables = entry.variables key := by
  have settings : ((environment key game entry).flatMap fun setting =>
      [setting.1, setting.2]).flatMap placeholders = entry.variables key := by
    rw [← asking_environment isKey game plain, List.flatMap_assoc, asking]
    apply List.flatMap_congr
    intro setting listed
    have name := placeholders_of_dollar_free
      (dollar_not_mem_environment key game plain setting listed)
    rw [List.flatMap_cons, List.flatMap_singleton, name, List.nil_append]
  have volumes : (entry.volumes.map (ownVolume key)).flatMap placeholders = [] := by
    rw [List.flatMap_map, List.flatMap_eq_nil_iff]
    intro volume listed
    exact placeholders_of_dollar_free
      (dollar_not_mem_ownVolume isKey (plain.volumes volume listed))
  rw [ComposeEntry.variables, ComposeEntry.texts, List.flatMap_append, List.flatMap_cons,
    List.flatMap_cons, composeEntry, settings, volumes,
    placeholders_of_dollar_free (dollar_not_mem_key isKey),
    placeholders_of_dollar_free plain.image]
  simp

end HomelabBuilder.Gaming
