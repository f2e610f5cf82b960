import HomelabBuilder.Services.RoundTrip

/-! # A save and the other builds

A save replaces the rows of its build. Whatever else is stored, it ends as it would in
empty tables, unless it asks for an id that another build uses.
-/

namespace HomelabBuilder.Services

def Tables.behind (others tables : Tables) : Tables where
  builds := others.builds
  nodes := others.nodes ++ tables.nodes
  virtualMachines := others.virtualMachines ++ tables.virtualMachines
  components := others.components ++ tables.components
  edges := others.edges ++ tables.edges
  services := others.services ++ tables.services

def Writer.behind (others : Tables) (writer : Writer) : Writer :=
  ⟨others.behind writer.tables, writer.tick⟩

/-- A shelf that keeps the rows of others in front. -/
structure Shelf.Framed {Row : Type} (shelf : Shelf Row) : Prop where
  rows : ∀ others tables,
    shelf.rows (others.behind tables) = shelf.rows others ++ shelf.rows tables
  put : ∀ others tables rows,
    shelf.put (others.behind tables) (shelf.rows others ++ rows) =
      others.behind (shelf.put tables rows)

theorem vmShelf_framed : vmShelf.Framed := ⟨fun _ _ => rfl, fun _ _ _ => rfl⟩

theorem componentShelf_framed : componentShelf.Framed := ⟨fun _ _ => rfl, fun _ _ _ => rfl⟩

/-! ## Outcomes -/

/-- An outcome among others is the one alone, behind their rows, or the refusal of an id
that is taken. -/
def AloneOr {α : Type} (taken : UUID → Prop) (behind : α → α)
    (among alone : Except SaveError α) : Prop :=
  among = alone.map behind ∨ ∃ id, taken id ∧ among = .error (.duplicateKey id)

section

variable {α β : Type} {taken : UUID → Prop} {behind : α → α} {behindNext : β → β}
  {among alone : Except SaveError α} {amongNext aloneNext : α → Except SaveError β}

theorem AloneOr.bind (first : AloneOr taken behind among alone)
    (next : ∀ value, AloneOr taken behindNext (amongNext (behind value)) (aloneNext value)) :
    AloneOr taken behindNext (among >>= amongNext) (alone >>= aloneNext) := by
  rcases first with rfl | ⟨id, isTaken, rfl⟩
  · cases alone with
    | error issue => exact .inl rfl
    | ok value => exact next value
  · exact .inr ⟨id, isTaken, rfl⟩

theorem AloneOr.of_eq (outcome : Except SaveError α) : AloneOr taken id outcome outcome := by
  left
  cases outcome <;> rfl

end

/-! ## Inserting rows -/

section

variable {Row Item : Type} {taken : UUID → Prop} {others : Tables}

theorem create_behind {id : Row → UUID} {foreign rows : List Row} {row : Row}
    (clash : id row ∈ foreign.map id → taken (id row)) :
    AloneOr taken (foreign ++ ·) (create id (foreign ++ rows) row) (create id rows row) := by
  unfold create
  by_cases free : id row ∈ foreign.map id
  · right
    exact ⟨id row, clash free, if_pos (by simp only [List.map_append, List.mem_append, free, true_or])⟩
  · left
    simp only [List.map_append, List.mem_append, free, false_or]
    split
    · rfl
    · rw [List.append_assoc]
      rfl

theorem insertEach_behind {shelf : Shelf Row} {make : Writer → Item → Row} (framed : shelf.Framed)
    (steady : ∀ writer item, make (Writer.behind others writer) item = make writer item) :
    ∀ (items : List Item) (writer : Writer),
      (∀ item ∈ items, ∀ writer, shelf.id (make writer item) ∈ (shelf.rows others).map shelf.id →
        taken (shelf.id (make writer item))) →
      AloneOr taken (Writer.behind others)
        (insertEach shelf make (Writer.behind others writer) items)
        (insertEach shelf make writer items)
  | [], _, _ => .inl rfl
  | item :: rest, writer, clash => by
      rw [insertEach, insertEach]
      have rows : shelf.rows (Writer.behind others writer).tables =
          shelf.rows others ++ shelf.rows writer.tables := framed.rows others writer.tables
      rw [rows, steady]
      apply (create_behind (clash item List.mem_cons_self writer)).bind
      intro made
      have put : shelf.put (Writer.behind others writer).tables (shelf.rows others ++ made) =
          others.behind (shelf.put writer.tables made) := framed.put others writer.tables made
      rw [put]
      exact insertEach_behind framed steady rest ⟨shelf.put writer.tables made, writer.tick + 1⟩
        fun other member => clash other (List.mem_cons_of_mem _ member)

end

/-! ## Ids -/

section

variable (runtime : Runtime) (supply : Supply)

/-- An id that a save gives to something in a node and that a row of others has. -/
def Clash (others : Tables) (node : NodeDTO) (id : UUID) : Prop :=
  ∃ tick, (id = entityID runtime supply tick node.id ∧ id ∈ others.nodes.map NodeRow.id) ∨
    (∃ vm ∈ node.vms, id = entityID runtime supply tick vm.id ∧
      id ∈ others.virtualMachines.map VirtualMachineRow.id) ∨
    ∃ component ∈ node.internalComponents, id = entityID runtime supply tick component.id ∧
      id ∈ others.components.map NodeComponentRow.id

theorem lookup_idMap (key : String) : ∀ (nodes : List NodeDTO) (tick : Nat)
    (ids : List (String × UUID)),
    (key ∈ nodes.map NodeDTO.id ∨ ∃ tick, ids.lookup key = some (entityID runtime supply tick key)) →
    ∃ tick', (idMap runtime supply tick nodes ids).lookup key =
      some (entityID runtime supply tick' key)
  | [], _, _, known => by
      rcases known with member | known
      · cases member
      · exact known
  | node :: rest, tick, ids, known => by
      rw [idMap]
      apply lookup_idMap
      rw [Table.lookup_set]
      by_cases own : key = node.id
      · right
        exact ⟨tick, by rw [if_pos own, own]⟩
      · rw [if_neg own]
        rcases known with member | known
        · left
          exact (List.mem_cons.mp member).resolve_left own
        · exact .inr known

/-! ## The graph -/

variable {others : Tables} {taken : UUID → Prop}

theorem insertNodes_behind (buildID : UUID) (ids : List (String × UUID)) :
    ∀ (nodes : List NodeDTO) (writer : Writer),
      (∀ node ∈ nodes, (∃ tick, ids.lookup node.id = some (entityID runtime supply tick node.id)) ∧
        ∀ id, Clash runtime supply others node id → taken id) →
      AloneOr taken (Writer.behind others)
        (insertNodes runtime supply buildID ids (Writer.behind others writer) nodes)
        (insertNodes runtime supply buildID ids writer nodes)
  | [], _, _ => .inl rfl
  | node :: rest, writer, clash => by
      rcases clash node List.mem_cons_self with ⟨⟨tick, known⟩, clashes⟩
      rw [insertNodes, insertNodes]
      simp only [known, Option.getD_some]
      apply AloneOr.bind
      · exact create_behind fun isTaken => clashes _ ⟨tick, .inl ⟨rfl, isTaken⟩⟩
      intro made
      apply AloneOr.bind
      · apply @insertEach_behind _ _ _ others _ _ vmShelf_framed (fun _ _ => rfl) node.vms
          ⟨{ writer.tables with nodes := made }, writer.tick + 1⟩
        intro vm member writer isTaken
        exact clashes _ ⟨writer.tick, .inr (.inl ⟨vm, member, rfl, isTaken⟩)⟩
      intro writer
      apply AloneOr.bind
      · apply insertEach_behind componentShelf_framed (fun _ _ => rfl) node.internalComponents writer
        intro component member writer isTaken
        exact clashes _ ⟨writer.tick, .inr (.inr ⟨component, member, rfl, isTaken⟩)⟩
      intro writer
      exact insertNodes_behind buildID ids rest writer
        fun other member => clash other (List.mem_cons_of_mem _ member)

/-- A save acts on its build alone. Whatever the other builds hold, it fails as it would
in empty tables, or writes the same rows behind theirs, or is refused for an id of theirs. -/
theorem syncGraph_alone (tables : Tables) (buildID : UUID) (input : SyncGraphInput) :
    AloneOr (fun id => ∃ node ∈ input.nodes, Clash runtime supply (deleteGraph tables buildID) node id)
      (deleteGraph tables buildID).behind (syncGraph runtime supply tables buildID input)
      (syncGraph runtime supply {} buildID input) := by
  unfold syncGraph
  apply AloneOr.bind
  · exact .of_eq (validateGraph runtime input.nodes input.edges)
  intro _
  have cleared : deleteGraph {} buildID = {} := rfl
  have opening : (⟨deleteGraph tables buildID, input.nodes.length⟩ : Writer) =
      Writer.behind (deleteGraph tables buildID) ⟨{}, input.nodes.length⟩ := by
    simp only [Writer.behind, Tables.behind, List.append_nil]
  dsimp only
  rw [opening, cleared]
  apply AloneOr.bind
  · apply insertNodes_behind
    intro node member
    exact ⟨lookup_idMap runtime supply node.id input.nodes 0 []
      (.inl (List.mem_map_of_mem member)), fun id clash => ⟨node, member, clash⟩⟩
  intro writer
  left
  simp only [Writer.behind, Tables.behind, List.append_assoc]
  rfl

end

end HomelabBuilder.Services
