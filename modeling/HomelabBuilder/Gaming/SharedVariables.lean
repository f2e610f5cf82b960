import HomelabBuilder.Gaming.OwnerValues

/-! # Variables that two servers share

Which servers of a host ask for the same variable, and which variables have no
legal name.
-/

namespace HomelabBuilder.Gaming

/-- A letter or underscore, then letters, digits and underscores. -/
def IsLegalVariable (name : String) : Prop :=
  ∃ first rest, name.toList = first :: rest ∧ (first.isAlpha = true ∨ first = '_') ∧
    ∀ char ∈ rest, isWordChar char = true

/-- Each variable of the file is one service's own and is asked for once. -/
structure ComposeFile.IsSound (file : ComposeFile) : Prop where
  keys : (file.services.map fun service => service.key).Nodup
  legal : ∀ service ∈ file.services, ∀ name ∈ service.variables, IsLegalVariable name
  listed : ∀ service ∈ file.services, ∀ name ∈ service.variables,
    file.envExample.count name = 1
  apart : file.services.Pairwise fun left right => ∀ name ∈ left.variables,
    name ∉ right.variables

/-! ## One variable -/

theorem upperKey_eq (key : String) : upperKey key = key.toList.map upperChar := rfl

theorem isLegalVariable_ownVariable {key : String} (isKey : IsKey key.toList)
    {name : List Char} (word : ∀ char ∈ name, isWordChar char = true) :
    IsLegalVariable (ownVariable key name) ↔ ∀ char ∈ key.toList.head?, char.isDigit = false := by
  have whole := isWordChar_variableName isKey word
  rcases isKey.first with ⟨char, rest, split, plain⟩
  have front : variableName key name = upperChar char :: (rest.map upperChar ++ '_' :: name) := by
    rw [variableName, upperKey_eq, split]
    rfl
  have letter := isAlpha_upperChar char
    (isKey.chars char (split ▸ List.mem_cons_self)) plain
  rw [IsLegalVariable, ownVariable, String.toList_ofList, front, split]
  rw [front] at whole
  constructor
  · rintro ⟨first, others, same, legal, _⟩ head here
    cases here
    cases same
    exact letter.1.mp (legal.resolve_right letter.2)
  · intro noDigit
    exact ⟨_, _, rfl, Or.inl (letter.1.mpr (noDigit char rfl)),
      fun other listed => whole other (List.mem_cons_of_mem _ listed)⟩

theorem map_upperChar_injective : ∀ {left right : List Char},
    (∀ char ∈ left, char ∈ keyChars) → (∀ char ∈ right, char ∈ keyChars) →
      left.map upperChar = right.map upperChar → left = right := by
  intro left right leftKey rightKey same
  have back : ∀ {key : List Char}, (∀ char ∈ key, char ∈ keyChars) →
      (key.map upperChar).map lowerChar = key := by
    intro key chars
    rw [List.map_map]
    have each : ∀ char ∈ key, (lowerChar ∘ upperChar) char = id char :=
      fun char listed => lowerChar_upperChar char (chars char listed)
    rw [List.map_congr_left each, List.map_id]
  rw [← back leftKey, same, back rightKey]

theorem extension_of_map {key longer rest : List Char} (isKey : ∀ char ∈ key, char ∈ keyChars)
    (longerKey : ∀ char ∈ longer, char ∈ keyChars)
    (same : longer.map upperChar = key.map upperChar ++ '_' :: rest) :
    ∃ word, longer = key ++ '-' :: word ∧ rest = word.map upperChar := by
  rcases List.map_eq_append_iff.mp same with ⟨front, back, rfl, frontSame, backSame⟩
  rcases List.map_eq_cons_iff.mp backSame with ⟨char, word, rfl, underscore, wordSame⟩
  have fronts := map_upperChar_injective
    (fun other listed => longerKey other (List.mem_append_left _ listed)) isKey frontSame
  have dash := upperChar_eq_underscore char
    (longerKey char (List.mem_append_right _ List.mem_cons_self)) underscore
  exact ⟨word, by rw [fronts, dash], wordSame.symm⟩

/-- Two variables are the same where one key goes on with the start of the other
variable's name. -/
theorem same_variableName {left right leftName rightName : List Char}
    (leftKey : ∀ char ∈ left, char ∈ keyChars) (rightKey : ∀ char ∈ right, char ∈ keyChars)
    (different : left ≠ right)
    (same : left.map upperChar ++ '_' :: leftName = right.map upperChar ++ '_' :: rightName) :
    (∃ word, left = right ++ '-' :: word ∧ rightName = word.map upperChar ++ '_' :: leftName) ∨
      ∃ word, right = left ++ '-' :: word ∧ leftName = word.map upperChar ++ '_' :: rightName := by
  rcases List.append_eq_append_iff.mp same with
    ⟨more, longer, names⟩ | ⟨more, longer, names⟩
  · cases more with
    | nil =>
        rw [List.append_nil] at longer
        exact absurd (map_upperChar_injective leftKey rightKey longer.symm) different
    | cons char rest =>
        rw [List.cons_append, List.cons.injEq] at names
        rw [← names.1] at longer
        rcases extension_of_map leftKey rightKey longer with ⟨word, split, read⟩
        exact Or.inr ⟨word, split, read ▸ names.2⟩
  · cases more with
    | nil =>
        rw [List.append_nil] at longer
        exact absurd (map_upperChar_injective leftKey rightKey longer) different
    | cons char rest =>
        rw [List.cons_append, List.cons.injEq] at names
        rw [← names.1] at longer
        rcases extension_of_map rightKey leftKey longer with ⟨word, split, read⟩
        exact Or.inl ⟨word, split, read ▸ names.2⟩

/-! ## Which games clash -/

/-- A server of the first game, named like one of the second with the word behind
it, asks for a variable of that one. -/
def clashes : List (String × String × String) :=
  [("project_zomboid", "server", "palworld"), ("project_zomboid", "server", "ark_se"),
   ("project_zomboid", "admin", "palworld"), ("project_zomboid", "admin", "ark_se"),
   ("project_zomboid", "rust-rcon", "rust"), ("project_zomboid", "mumble-superuser", "mumble"),
   ("valheim", "rust", "rust"), ("enshrouded", "rust", "rust"), ("project_zomboid", "cs2", "cs2")]

/-- What stands in front of the name in a longer one, as part of a key. -/
def clashWord (name longer : List Char) : List Char :=
  (longer.take (longer.length - (name.length + 1))).map lowerChar

theorem clashes_complete : ∀ left ∈ registry, ∀ right ∈ registry,
    ∀ name ∈ left.ownerValues, ∀ longer ∈ right.ownerValues, ('_' :: name) <:+ longer →
      (left.slug, String.ofList (clashWord name longer), right.slug) ∈ clashes := by
  decide

theorem clashes_real : ∀ left ∈ registry, ∀ right ∈ registry, ∀ clash ∈ clashes,
    left.slug = clash.1 → right.slug = clash.2.2 →
      ∃ name ∈ left.ownerValues, ∃ longer ∈ right.ownerValues,
        longer = clash.2.1.toList.map upperChar ++ '_' :: name := by
  decide

/-- A key that goes on with the start of a variable of another server. -/
def Clashing (left right : String × Instance × RegistryEntry) : Prop :=
  ∃ word, (left.2.2.slug, word, right.2.2.slug) ∈ clashes ∧ left.1 = right.1 ++ "-" ++ word

theorem clashWord_eq {word name : List Char} (chars : ∀ char ∈ word, char ∈ keyChars) :
    clashWord name (word.map upperChar ++ '_' :: name) = word := by
  have length : (word.map upperChar ++ '_' :: name).length - (name.length + 1) =
      (word.map upperChar).length := by
    rw [List.length_append, List.length_cons]
    omega
  have each : ∀ char ∈ word, (lowerChar ∘ upperChar) char = id char :=
    fun char listed => lowerChar_upperChar char (chars char listed)
  rw [clashWord, length, List.take_left, List.map_map, List.map_congr_left each, List.map_id]

theorem clashing_iff {left right : String × Instance × RegistryEntry}
    (leftKey : IsKey left.1.toList) (leftReal : left.2.2 ∈ registry)
    (rightReal : right.2.2 ∈ registry) :
    Clashing left right ↔
      ∃ word, ∃ name ∈ left.2.2.ownerValues, ∃ longer ∈ right.2.2.ownerValues,
        left.1.toList = right.1.toList ++ '-' :: word ∧
          longer = word.map upperChar ++ '_' :: name := by
  constructor
  · rintro ⟨word, listed, split⟩
    rcases clashes_real _ leftReal _ rightReal _ listed rfl rfl with
      ⟨name, own, longer, other, same⟩
    refine ⟨word.toList, name, own, longer, other, ?_, same⟩
    rw [split, String.toList_append, String.toList_append, List.append_assoc]
    rfl
  · rintro ⟨word, name, own, longer, other, split, same⟩
    have chars : ∀ char ∈ word, char ∈ keyChars := fun char listed =>
      leftKey.chars char (split ▸ List.mem_append_right _ (List.mem_cons_of_mem _ listed))
    have found := clashes_complete _ leftReal _ rightReal name own longer other
      ⟨word.map upperChar, same.symm⟩
    rw [same, clashWord_eq chars] at found
    have chosen : (String.ofList word).toList = word := String.toList_ofList
    refine ⟨_, found, ?_⟩
    rw [← String.toList_inj, split, String.toList_append, String.toList_append, chosen,
      List.append_assoc]
    rfl

theorem exists_shared_iff {left right : String × Instance × RegistryEntry}
    (leftKey : IsKey left.1.toList) (rightKey : IsKey right.1.toList)
    (leftReal : left.2.2 ∈ registry) (rightReal : right.2.2 ∈ registry)
    (different : left.1 ≠ right.1) :
    (∃ name ∈ left.2.2.variables left.1, name ∈ right.2.2.variables right.1) ↔
      Clashing left right ∨ Clashing right left := by
  have lists : left.1.toList ≠ right.1.toList := fun same => different (String.toList_inj.mp same)
  rw [clashing_iff leftKey leftReal rightReal, clashing_iff rightKey rightReal leftReal]
  constructor
  · rintro ⟨_, own, other⟩
    rcases List.mem_map.mp own with ⟨leftName, leftOwn, rfl⟩
    rcases List.mem_map.mp other with ⟨rightName, rightOwn, same⟩
    have sameChars := String.ofList_inj.mp same
    rcases same_variableName leftKey.chars rightKey.chars lists sameChars.symm with
      ⟨word, split, longer⟩ | ⟨word, split, longer⟩
    · exact Or.inl ⟨word, leftName, leftOwn, rightName, rightOwn, split, longer⟩
    · exact Or.inr ⟨word, rightName, rightOwn, leftName, leftOwn, split, longer⟩
  · have shared : ∀ {key longerKey : String} {word name : List Char},
        longerKey.toList = key.toList ++ '-' :: word →
          ownVariable longerKey name = ownVariable key (word.map upperChar ++ '_' :: name) := by
      intro key longerKey word name split
      rw [ownVariable, ownVariable, variableName, variableName, upperKey_eq, upperKey_eq, split,
        List.map_append, List.append_assoc]
      rfl
    rintro (⟨word, name, own, longer, other, split, rfl⟩ | ⟨word, name, own, longer, other, split, rfl⟩)
    · exact ⟨_, List.mem_map_of_mem own, shared split ▸ List.mem_map_of_mem other⟩
    · exact ⟨_, List.mem_map_of_mem other, shared split ▸ List.mem_map_of_mem own⟩

/-! ## Whole files -/

structure IsWritten (entry : String × Instance × RegistryEntry) : Prop where
  key : IsKey entry.1.toList
  real : entry.2.2 ∈ registry

theorem written_spec (servers : List ComposeServer) : ∀ used : List String,
    ((written used servers).map Prod.fst).Nodup ∧
      ∀ entry ∈ written used servers, entry.1 ∉ used ∧ IsWritten entry := by
  induction servers with
  | nil => exact fun _ => ⟨List.nodup_nil, List.forall_mem_nil _⟩
  | cons server rest induction =>
      intro used
      rw [written]
      split
      case h_1 game profile entry normalized found =>
        split
        · exact induction used
        · have fresh := freshName_not_mem used (composeServiceBase server.name)
          have later := induction (composeServiceName server.name used :: used)
          constructor
          · rw [List.map_cons, List.nodup_cons]
            refine ⟨?_, later.1⟩
            intro listed
            rcases List.mem_map.mp listed with ⟨other, member, same⟩
            exact (later.2 other member).1 (same ▸ List.mem_cons_self)
          · intro other listed
            rcases List.mem_cons.mp listed with rfl | member
            · exact ⟨fresh, isKey_composeServiceName server.name used,
                List.mem_of_find?_eq_some found⟩
            · exact ⟨fun old => (later.2 other member).1 (List.mem_cons_of_mem _ old),
                (later.2 other member).2⟩
      case h_2 => exact induction used

theorem IsWritten.variables_eq {entry : String × Instance × RegistryEntry}
    (isWritten : IsWritten entry) :
    (composeEntry entry.1 entry.2.1 entry.2.2).variables = entry.2.2.variables entry.1 :=
  variables_composeEntry isWritten.key _ (isPlain_registry _ isWritten.real)

theorem envExample_composeFile (servers : List ComposeServer) :
    (composeFile servers).envExample =
      (written [] servers).flatMap fun entry => entry.2.2.variables entry.1 := by
  apply List.flatMap_congr
  intro entry listed
  exact askedFor_eq _ _ (isPlain_registry _ ((written_spec servers []).2 entry listed).2.real)

theorem IsWritten.word {entry : String × Instance × RegistryEntry} (isWritten : IsWritten entry)
    {name : List Char} (own : name ∈ entry.2.2.ownerValues) :
    ∀ char ∈ name, isWordChar char = true := by
  rcases List.mem_filterMap.mp own with ⟨line, inLines, owner⟩
  exact (word_of_owner ((isPlain_registry _ isWritten.real).lines line inLines) owner).2

theorem IsWritten.nodup {entry : String × Instance × RegistryEntry}
    (isWritten : IsWritten entry) : (entry.2.2.variables entry.1).Nodup := by
  apply (isPlain_registry _ isWritten.real).values.map
  intro left right same
  have names := List.append_cancel_left (String.ofList_injective same)
  exact (List.cons.inj names).2

/-- The variables of a file are sound where each server that has some is named with a
letter first, and no server's name goes on from another's in a clashing way. -/
theorem composeFile_isSound_iff (servers : List ComposeServer) :
    (composeFile servers).IsSound ↔
      (∀ entry ∈ written [] servers, entry.2.2.ownerValues ≠ [] →
        ∀ char ∈ entry.1.toList.head?, char.isDigit = false) ∧
      ∀ left ∈ written [] servers, ∀ right ∈ written [] servers, ¬Clashing left right := by
  have spec := written_spec servers []
  have different : (written [] servers).Pairwise fun left right => left.1 ≠ right.1 :=
    List.pairwise_map.mp spec.1
  have services : (composeFile servers).services =
      (written [] servers).map fun entry => composeEntry entry.1 entry.2.1 entry.2.2 := rfl
  have sharing : ∀ left ∈ written [] servers, ∀ right ∈ written [] servers, left.1 ≠ right.1 →
      ((∀ name ∈ left.2.2.variables left.1, name ∉ right.2.2.variables right.1) ↔
        ¬(Clashing left right ∨ Clashing right left)) := by
    intro left inLeft right inRight keys
    have leftSpec := (spec.2 left inLeft).2
    have rightSpec := (spec.2 right inRight).2
    rw [← exists_shared_iff leftSpec.key rightSpec.key leftSpec.real rightSpec.real keys]
    push Not
    rfl
  constructor
  · rintro ⟨_, legal, _, apart⟩
    rw [services] at legal apart
    constructor
    · intro entry listed asks
      have entrySpec := (spec.2 entry listed).2
      rcases List.exists_mem_of_ne_nil _ asks with ⟨name, own⟩
      apply (isLegalVariable_ownVariable entrySpec.key (entrySpec.word own)).mp
      apply legal _ (List.mem_map_of_mem listed)
      rw [entrySpec.variables_eq]
      exact List.mem_map_of_mem own
    · intro left inLeft right inRight clashing
      have keys : left.1 ≠ right.1 := by
        rcases clashing with ⟨word, _, longer⟩
        intro same
        have lengths := congrArg String.length (longer.symm.trans same)
        rw [String.length_append, String.length_append] at lengths
        have dash : "-".length = 1 := rfl
        omega
      have leftSpec := (spec.2 left inLeft).2
      have rightSpec := (spec.2 right inRight).2
      have symmetric : Std.Symm fun left right : String × Instance × RegistryEntry =>
          ∀ name ∈ (composeEntry left.1 left.2.1 left.2.2).variables,
            name ∉ (composeEntry right.1 right.2.1 right.2.2).variables :=
        ⟨fun _ _ separate name own other => separate name other own⟩
      have separate := (List.pairwise_map.mp apart).forall inLeft inRight
        (fun same => keys (congrArg Prod.fst same))
      rw [leftSpec.variables_eq, rightSpec.variables_eq] at separate
      exact (sharing left inLeft right inRight keys).mp separate (Or.inl clashing)
  · rintro ⟨letters, kept⟩
    have apart : (written [] servers).Pairwise fun left right =>
        ∀ name ∈ left.2.2.variables left.1, name ∉ right.2.2.variables right.1 := by
      apply different.imp_of_mem
      intro left right inLeft inRight keys
      apply (sharing left inLeft right inRight keys).mpr
      exact fun clashing => clashing.elim (kept left inLeft right inRight)
        (kept right inRight left inLeft)
    have once : (composeFile servers).envExample.Nodup := by
      rw [envExample_composeFile, List.nodup_flatMap]
      refine ⟨fun entry listed => (spec.2 entry listed).2.nodup, apart.imp ?_⟩
      intro left right separate name inLeft inRight
      exact separate name inLeft inRight
    refine ⟨?_, ?_, ?_, ?_⟩
    · rw [services, List.map_map]
      exact spec.1
    · rw [services]
      intro service listed name asked
      rcases List.mem_map.mp listed with ⟨entry, member, rfl⟩
      have entrySpec := (spec.2 entry member).2
      rw [entrySpec.variables_eq] at asked
      rcases List.mem_map.mp asked with ⟨value, own, rfl⟩
      exact (isLegalVariable_ownVariable entrySpec.key (entrySpec.word own)).mpr
        (letters entry member (List.ne_nil_of_mem own))
    · rw [services]
      intro service listed name asked
      rcases List.mem_map.mp listed with ⟨entry, member, rfl⟩
      rw [(spec.2 entry member).2.variables_eq] at asked
      apply List.count_eq_one_of_mem once
      rw [envExample_composeFile]
      exact List.mem_flatMap.mpr ⟨entry, member, asked⟩
    · rw [services, List.pairwise_map]
      apply apart.imp_of_mem
      intro left right inLeft inRight separate
      rw [(spec.2 left inLeft).2.variables_eq, (spec.2 right inRight).2.variables_eq]
      exact separate

theorem servers_share_password :
    ¬(composeFile [⟨"X", { profile := "palworld" }⟩,
        ⟨"X server", { profile := "project_zomboid" }⟩]).IsSound := by
  intro sound
  have asked : ∃ service ∈ (composeFile [⟨"X", { profile := "palworld" }⟩,
      ⟨"X server", { profile := "project_zomboid" }⟩]).services,
        ∃ text ∈ service.texts, "X_SERVER_PASSWORD" ∈ placeholders text := by
    decide
  rcases asked with ⟨service, listed, text, written, asked⟩
  have once := sound.listed service listed _ (List.mem_flatMap.mpr ⟨text, written, asked⟩)
  have twice : (composeFile [⟨"X", { profile := "palworld" }⟩,
      ⟨"X server", { profile := "project_zomboid" }⟩]).envExample.count
        "X_SERVER_PASSWORD" = 2 := by
    decide
  omega

end HomelabBuilder.Gaming
