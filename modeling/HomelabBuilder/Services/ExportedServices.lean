import HomelabBuilder.Services.ComposeExport

/-! # Services of the exported file

No two services of the exported compose file have one key, and which of them publish
one port of the host.
-/

namespace HomelabBuilder.Services

/-! ## Numbered keys -/

def IsSlug (slug : String) : Prop := ∀ char ∈ slug.toList.getLast?, char.isDigit = false

/-- The key of the service that comes as the given one of its slug. -/
def numberedKey (slug : String) (count : Nat) : String :=
  if count = 1 then slug else slug ++ "_" ++ toString count

theorem isDigit_toString {number : Nat} {char : Char} (listed : char ∈ (toString number).toList) :
    char.isDigit = true := by
  rw [Nat.toString_eq_ofList_toDigits, String.toList_ofList] at listed
  exact Nat.isDigit_of_mem_toDigits (by decide) (by decide) listed

theorem digits_behind (front : List Char) (number : Nat) :
    (front ++ '_' :: (toString number).toList).reverse.takeWhile Char.isDigit =
      (toString number).toList.reverse := by
  have split : (front ++ '_' :: (toString number).toList).reverse =
      (toString number).toList.reverse ++ '_' :: front.reverse := by
    simp
  rw [split, List.takeWhile_append_of_pos]
  · have stop : ('_' :: front.reverse).takeWhile Char.isDigit = [] := rfl
    rw [stop, List.append_nil]
  · exact fun char listed => isDigit_toString (List.mem_reverse.mp listed)

theorem toList_numberedKey {slug : String} {count : Nat} (several : count ≠ 1) :
    (numberedKey slug count).toList = slug.toList ++ '_' :: (toString count).toList := by
  rw [numberedKey, if_neg several, String.toList_append, String.toList_append, List.append_assoc]
  rfl

theorem not_slug_numbered {slug other : String} (isSlug : IsSlug other) {count : Nat}
    (several : count ≠ 1) : numberedKey slug count ≠ other := by
  intro same
  have text : other.toList = slug.toList ++ '_' :: (toString count).toList := by
    rw [← same]
    exact toList_numberedKey several
  have ended : ∃ char, other.toList.getLast? = some char ∧ char.isDigit = true := by
    have digits : (toString count).toList ≠ [] := by
      rw [Nat.toString_eq_ofList_toDigits, String.toList_ofList]
      exact Nat.toDigits_ne_nil
    rw [text, List.getLast?_append_of_ne_nil _ (List.cons_ne_nil _ _),
      List.getLast?_cons_of_ne_nil digits]
    exact ⟨_, List.getLast?_eq_some_getLast digits, isDigit_toString (List.getLast_mem digits)⟩
  rcases ended with ⟨char, last, digit⟩
  rw [isSlug char last] at digit
  cases digit

theorem numberedKey_injective {left right : String} (leftSlug : IsSlug left)
    (rightSlug : IsSlug right) {leftCount rightCount : Nat}
    (same : numberedKey left leftCount = numberedKey right rightCount) :
    left = right ∧ leftCount = rightCount := by
  by_cases leftOne : leftCount = 1
  · by_cases rightOne : rightCount = 1
    · rw [numberedKey, if_pos leftOne, numberedKey, if_pos rightOne] at same
      exact ⟨same, leftOne.trans rightOne.symm⟩
    · rw [numberedKey, if_pos leftOne] at same
      exact absurd same.symm (not_slug_numbered leftSlug rightOne)
  · by_cases rightOne : rightCount = 1
    · have plain : numberedKey right rightCount = right := by rw [numberedKey, if_pos rightOne]
      rw [plain] at same
      exact absurd same (not_slug_numbered rightSlug leftOne)
    · have texts := congrArg String.toList same
      rw [toList_numberedKey leftOne, toList_numberedKey rightOne] at texts
      have digits := congrArg (fun text : List Char => text.reverse.takeWhile Char.isDigit) texts
      simp only [digits_behind, List.reverse_inj, String.toList_inj] at digits
      have counts := Gaming.toString_injective digits
      rw [counts] at texts
      exact ⟨String.toList_inj.mp (List.append_cancel_right texts), counts⟩

/-! ## Known names -/

theorem toLower_of_isDigit {char : Char} (digit : char.toLower.isDigit = true) :
    char.toLower = char := by
  have low : ∀ code < 128, (Char.ofNat code).toLower.isDigit = true →
      (Char.ofNat code).toLower = Char.ofNat code := by
    decide
  by_cases small : char.toNat < 128
  · have same := low char.toNat small
    rw [Char.ofNat_toNat] at same
    exact same digit
  · delta Char.toLower
    rw [dif_neg]
    rintro ⟨_, high⟩
    have bound : char.toNat ≤ 90 := high
    omega

/-- Where a mapped text ends in a digit, and digits come of digits only, the text does. -/
theorem getLast?_of_map {f : Char → Char}
    (kept : ∀ char, (f char).isDigit = true → f char = char) {text : List Char} {char : Char}
    (last : (text.map f).getLast? = some char) (digit : char.isDigit = true) :
    text.getLast? = some char := by
  rw [List.getLast?_map] at last
  rcases Option.map_eq_some_iff.mp last with ⟨inner, read, rfl⟩
  rw [kept inner digit]
  exact read

theorem getLast?_trimSpace {text : String} {char : Char} (last : text.toList.getLast? = some char)
    (digit : char.isDigit = true) : (trimSpace text).toList.getLast? = some char := by
  rcases List.getLast?_eq_some_iff.mp last with ⟨front, split⟩
  have printed : isSpace char = false := by
    simp only [Char.isDigit, Bool.and_eq_true, decide_eq_true_eq] at digit
    have low : 48 ≤ char.toNat := digit.1
    have high : char.toNat ≤ 57 := digit.2
    exact isSpace_eq_false (by omega) (by omega)
  have opened : ∃ rest, (front ++ [char]).dropWhile isSpace = rest ++ [char] := by
    rw [List.dropWhile_append]
    split
    · exact ⟨[], List.dropWhile_cons_of_neg (by rw [printed]; exact Bool.false_ne_true)⟩
    · exact ⟨_, rfl⟩
  rcases opened with ⟨rest, opened⟩
  rw [trimSpace, String.toList_ofList, split, opened, List.reverse_append, List.reverse_singleton,
    List.singleton_append, List.dropWhile_cons_of_neg (by rw [printed]; exact Bool.false_ne_true),
    List.reverse_cons]
  exact List.getLast?_concat

theorem foldChar_of_isDigit {char : Char} (digit : char.isDigit = true) :
    foldChar char = char := by
  have low : ∀ code < 128, (Char.ofNat code).isDigit = true →
      foldChar (Char.ofNat code) = Char.ofNat code := by
    decide
  have small : char.toNat < 128 := by
    simp only [Char.isDigit, Bool.and_eq_true, decide_eq_true_eq] at digit
    have high : char.toNat ≤ 57 := digit.2
    omega
  have same := low char.toNat small
  rw [Char.ofNat_toNat] at same
  exact same digit

theorem plain_serviceImages : ∀ entry ∈ serviceImages,
    ∀ char ∈ (entry.1.toList.map foldChar).getLast?, char.isDigit = false := by
  have all : (serviceImages.all fun entry =>
      ((entry.1.toList.map foldChar).getLast?.all fun char => !char.isDigit)) = true := by
    decide
  intro entry known char last
  have plain := List.all_eq_true.mp all entry known
  rw [Option.mem_def.mp last, Option.all_some, Bool.not_eq_true'] at plain
  exact plain

theorem isSlug_serviceSlug {name known : String} (found : knownName name = some known) :
    IsSlug (serviceSlug name) := by
  intro char last
  by_contra digit
  rw [Bool.not_eq_false] at digit
  rw [serviceSlug, String.toList_ofList] at last
  have inName : name.toList.getLast? = some char := by
    apply getLast?_of_map _ last digit
    intro char digit
    split at digit
    · cases digit
    · rename_i notBlank
      rw [if_neg notBlank]
      split at digit
      · cases digit
      · rename_i notKelvin
        rw [if_neg notKelvin]
        exact toLower_of_isDigit digit
  have trimmed := getLast?_trimSpace inName digit
  rw [knownName] at found
  split at found
  · cases found
  · have folded : (trimSpace name).toList.map foldChar = known.toList.map foldChar :=
      of_decide_eq_true (List.find?_some found :)
    rcases List.mem_map.mp (List.mem_of_find?_eq_some found) with ⟨entry, listed, rfl⟩
    have knownLast : (entry.1.toList.map foldChar).getLast? = some char := by
      rw [← folded, List.getLast?_map, trimmed, Option.map_some, foldChar_of_isDigit digit]
    rw [plain_serviceImages entry listed char knownLast] at digit
    cases digit

/-! ## Keys -/

/-- What the services so far have taken of their slugs. -/
structure ExportState.Numbered (state : ExportState) : Prop where
  slugs : ∀ slug count, state.usedServices.lookup slug = some count → 1 ≤ count ∧ IsSlug slug
  keys : ∀ service ∈ state.services, ∃ slug count number,
    state.usedServices.lookup slug = some count ∧ number ≤ count ∧
      service.key = numberedKey slug number
  distinct : (state.services.map ExportedService.key).Nodup

theorem nextKey_eq {used : List (String × Nat)}
    (slugs : ∀ slug count, used.lookup slug = some count → 1 ≤ count ∧ IsSlug slug)
    (slug : String) :
    nextKey used slug = (numberedKey slug ((used.lookup slug).getD 0 + 1),
      (used.lookup slug).getD 0 + 1) := by
  rw [nextKey]
  cases found : used.lookup slug with
  | none => rfl
  | some count =>
      have several : count + 1 ≠ 1 := by
        have least := (slugs slug count found).1
        omega
      rw [Option.getD_some, numberedKey, if_neg several]

theorem ExportState.Numbered.exportGuest {state : ExportState} (numbered : state.Numbered)
    (vm : VirtualMachineRow) : (exportGuest state vm).Numbered := by
  rw [Services.exportGuest]
  cases known : exportConfig vm with
  | none => exact numbered
  | some config =>
      have isSlug : IsSlug (serviceSlug vm.name) := by
        rw [exportConfig] at known
        split at known
        · cases known
        split at known
        · cases known
        · rcases Option.bind_eq_some_iff.mp known with ⟨name, found, _⟩
          exact isSlug_serviceSlug found
      dsimp only
      rw [nextKey_eq numbered.slugs]
      generalize serviceSlug vm.name = slug at isSlug ⊢
      have grown : ∀ other, (Table.set state.usedServices slug
          ((state.usedServices.lookup slug).getD 0 + 1)).lookup other =
            if other = slug then some ((state.usedServices.lookup slug).getD 0 + 1)
            else state.usedServices.lookup other :=
        fun other => Table.lookup_set _ _ _ _
      constructor
      · intro other count found
        rw [grown] at found
        split at found
        · cases found
          rename_i same
          exact ⟨by omega, same ▸ isSlug⟩
        · exact numbered.slugs other count found
      · intro service listed
        rcases List.mem_append.mp listed with old | new
        · rcases numbered.keys service old with ⟨other, count, number, found, bound, key⟩
          by_cases same : other = slug
          · subst same
            refine ⟨other, _, number, by rw [grown, if_pos rfl], ?_, key⟩
            rw [found, Option.getD_some]
            omega
          · exact ⟨other, count, number, by rw [grown, if_neg same]; exact found, bound, key⟩
        · rw [List.mem_singleton.mp new]
          exact ⟨slug, _, _, by rw [grown, if_pos rfl], le_refl _, rfl⟩
      · rw [List.map_append, List.nodup_append]
        refine ⟨numbered.distinct, List.nodup_singleton _, ?_⟩
        intro key old other new same
        rw [List.mem_map] at old
        rcases old with ⟨service, listed, rfl⟩
        rcases numbered.keys service listed with ⟨former, count, number, found, bound, key⟩
        have taken : numberedKey former number =
            numberedKey slug ((state.usedServices.lookup slug).getD 0 + 1) := by
          rw [← key, same]
          exact List.mem_singleton.mp new
        rcases numberedKey_injective (numbered.slugs former count found).2 isSlug taken with
          ⟨rfl, next⟩
        rw [found, Option.getD_some] at next
        omega

theorem ExportState.Numbered.exportNode {state : ExportState} (numbered : state.Numbered)
    (node : LoadedNode) : (exportNode state node).Numbered := by
  have guests : ∀ (vms : List VirtualMachineRow) {state : ExportState}, state.Numbered →
      (vms.foldl Services.exportGuest state).Numbered := by
    intro vms
    induction vms with
    | nil => exact id
    | cons vm rest induction => exact fun numbered => induction (numbered.exportGuest vm)
  rw [Services.exportNode]
  apply guests
  split
  · exact ⟨numbered.slugs, numbered.keys, numbered.distinct⟩
  · exact numbered

theorem nodup_dockerCompose (nodes : List LoadedNode) :
    ((dockerCompose nodes).services.map ExportedService.key).Nodup := by
  have all : ∀ (nodes : List LoadedNode) {state : ExportState}, state.Numbered →
      (nodes.foldl exportNode state).Numbered := by
    intro nodes
    induction nodes with
    | nil => exact id
    | cons node rest induction => exact fun numbered => induction (numbered.exportNode node)
  have start : ExportState.Numbered {} := ⟨nofun, List.forall_mem_nil _, List.nodup_nil⟩
  exact (all nodes start).distinct

end HomelabBuilder.Services
