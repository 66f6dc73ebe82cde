import Mathlib.Data.List.Nodup
import Mathlib.Data.List.Perm.Basic
import Mathlib.Order.Lattice

/-! Directories as trees of named leaves and directories. -/

namespace DirectoryTree

/-- What a directory lists, in the order of the names. -/
inductive Listing (ν α : Type*)
  | nil
  | leaf (name : ν) (value : α) (rest : Listing ν α)
  | directory (name : ν) (below rest : Listing ν α)
  deriving DecidableEq

/-- What stands at a path. -/
inductive Node (α : Type*)
  | directory
  | leaf (value : α)
  deriving DecidableEq

namespace Listing

variable {ν α : Type*}

def names : Listing ν α → List ν
  | nil => []
  | leaf name _ rest => name :: rest.names
  | directory name _ rest => name :: rest.names

/-- How many directories there are below a directory. -/
def directories : Listing ν α → ℕ
  | nil => 0
  | leaf _ _ rest => rest.directories
  | directory _ below rest => below.directories + rest.directories + 1

/-- A node with its path from one directory further up. -/
def under (name : ν) (node : List ν × Node α) : List ν × Node α := (name :: node.1, node.2)

/-- Everything below a directory, with its path from there. -/
def nodes : Listing ν α → List (List ν × Node α)
  | nil => []
  | leaf name value rest => ([name], .leaf value) :: rest.nodes
  | directory name below rest => ([name], .directory) :: (below.nodes.map (under name) ++ rest.nodes)

variable {t below rest : Listing ν α} {path parent more : List ν} {name other : ν} {node : Node α} {value : α}

theorem mem_under {nodes : List (List ν × Node α)} :
    (path, node) ∈ nodes.map (under name) ↔ ∃ p, path = name :: p ∧ (p, node) ∈ nodes := by
  constructor
  · intro h
    obtain ⟨⟨p, n⟩, hmem, heq⟩ := List.mem_map.mp h
    obtain ⟨rfl, rfl⟩ := Prod.mk.inj heq
    exact ⟨p, rfl, hmem⟩
  · rintro ⟨p, rfl, hmem⟩
    exact List.mem_map.mpr ⟨(p, node), hmem, rfl⟩

theorem mem_nodes_directory : (path, node) ∈ (directory name below rest).nodes ↔
    (path = [name] ∧ node = .directory) ∨ (∃ p, path = name :: p ∧ (p, node) ∈ below.nodes) ∨
      (path, node) ∈ rest.nodes := by
  rw [nodes, List.mem_cons, List.mem_append, mem_under, Prod.mk.injEq]

theorem mem_nodes_leaf : (path, node) ∈ (leaf name value rest).nodes ↔
    (path = [name] ∧ node = .leaf value) ∨ (path, node) ∈ rest.nodes := by
  rw [nodes, List.mem_cons, Prod.mk.injEq]

/-- Every path starts with a name of the directory. -/
theorem exists_cons_of_mem_nodes (h : (path, node) ∈ t.nodes) :
    ∃ name p, path = name :: p ∧ name ∈ t.names := by
  induction t with
  | nil => cases h
  | leaf name value rest ih =>
    rcases mem_nodes_leaf.mp h with ⟨rfl, -⟩ | h
    · exact ⟨name, [], rfl, List.mem_cons_self⟩
    · obtain ⟨other, p, hpath, hname⟩ := ih h
      exact ⟨other, p, hpath, List.mem_cons_of_mem _ hname⟩
  | directory name below rest _ ih =>
    rcases mem_nodes_directory.mp h with ⟨rfl, -⟩ | ⟨p, rfl, -⟩ | h
    · exact ⟨name, [], rfl, List.mem_cons_self⟩
    · exact ⟨name, p, rfl, List.mem_cons_self⟩
    · obtain ⟨other, p, hpath, hname⟩ := ih h
      exact ⟨other, p, hpath, List.mem_cons_of_mem _ hname⟩

theorem mem_names_of_mem_nodes (h : (name :: path, node) ∈ t.nodes) : name ∈ t.names := by
  obtain ⟨other, p, hpath, hname⟩ := exists_cons_of_mem_nodes h
  obtain ⟨rfl, -⟩ := List.cons.inj hpath
  exact hname

theorem ne_nil_of_mem_nodes (h : (path, node) ∈ t.nodes) : path ≠ [] := by
  obtain ⟨name, p, rfl, -⟩ := exists_cons_of_mem_nodes h
  exact List.cons_ne_nil _ _

/-- What is on the way to a node is a directory. -/
theorem directory_of_mem_nodes (h : (parent ++ more, node) ∈ t.nodes) (hparent : parent ≠ [])
    (hmore : more ≠ []) : (parent, .directory) ∈ t.nodes := by
  induction t generalizing parent with
  | nil => cases h
  | leaf name value rest ih =>
    rcases mem_nodes_leaf.mp h with ⟨hpath, -⟩ | h
    · rcases List.append_eq_singleton_iff.mp hpath with ⟨hnil, -⟩ | ⟨-, hnil⟩
      · exact absurd hnil hparent
      · exact absurd hnil hmore
    · exact mem_nodes_leaf.mpr (.inr (ih h hparent))
  | directory name below rest ihbelow ih =>
    rcases mem_nodes_directory.mp h with ⟨hpath, -⟩ | ⟨p, hpath, hmem⟩ | h
    · rcases List.append_eq_singleton_iff.mp hpath with ⟨hnil, -⟩ | ⟨-, hnil⟩
      · exact absurd hnil hparent
      · exact absurd hnil hmore
    · obtain ⟨first, parent, rfl⟩ := List.exists_cons_of_ne_nil hparent
      obtain ⟨rfl, hrest⟩ := List.cons.inj hpath
      by_cases hnil : parent = []
      · subst hnil
        exact mem_nodes_directory.mpr (.inl ⟨rfl, rfl⟩)
      · have hbelow := @ihbelow parent (by rwa [← hrest] at hmem) hnil
        exact mem_nodes_directory.mpr (.inr (.inl ⟨parent, rfl, hbelow⟩))
    · exact mem_nodes_directory.mpr (.inr (.inr (ih h hparent)))

/-- The names of every directory are valid and strictly in order. -/
def WellFormed [LT ν] (valid : ν → Prop) : Listing ν α → Prop
  | nil => True
  | leaf name _ rest => valid name ∧ (∀ other ∈ rest.names, name < other) ∧ rest.WellFormed valid
  | directory name below rest =>
    valid name ∧ (∀ other ∈ rest.names, name < other) ∧ below.WellFormed valid ∧ rest.WellFormed valid

variable [LinearOrder ν] {valid : ν → Prop}

theorem valid_of_mem_nodes (ht : t.WellFormed valid) (h : (path, node) ∈ t.nodes) :
    ∀ name ∈ path, valid name := by
  induction t generalizing path with
  | nil => cases h
  | leaf other value rest ih =>
    rcases mem_nodes_leaf.mp h with ⟨rfl, -⟩ | h
    · intro name hname
      rw [List.mem_singleton.mp hname]
      exact ht.1
    · exact ih ht.2.2 h
  | directory other below rest ihbelow ih =>
    obtain ⟨hother, -, hbelow, hwell⟩ := ht
    rcases mem_nodes_directory.mp h with ⟨rfl, -⟩ | ⟨p, rfl, hmem⟩ | h
    · intro name hname
      rw [List.mem_singleton.mp hname]
      exact hother
    · intro name hname
      rcases List.mem_cons.mp hname with rfl | hname
      · exact hother
      · exact ihbelow hbelow hmem name hname
    · exact ih hwell h

/-- No two nodes of a well-formed listing have one path. -/
theorem nodup_nodes (ht : t.WellFormed valid) : (t.nodes.map (·.1)).Nodup := by
  induction t with
  | nil => exact List.nodup_nil
  | leaf other value rest ih =>
    obtain ⟨-, hrest, hwell⟩ := ht
    refine List.nodup_cons.mpr ⟨fun hmem => ?_, ih hwell⟩
    obtain ⟨⟨path, node⟩, hnode, rfl⟩ := List.mem_map.mp hmem
    exact absurd (hrest _ (mem_names_of_mem_nodes hnode)) (lt_irrefl _)
  | directory other below rest ihbelow ih =>
    obtain ⟨-, hrest, hbelow, hwell⟩ := ht
    have hfresh : ∀ path, (other :: path) ∉ rest.nodes.map (·.1) := by
      intro path hmem
      obtain ⟨⟨found, node⟩, hnode, rfl⟩ := List.mem_map.mp hmem
      exact absurd (hrest _ (mem_names_of_mem_nodes hnode)) (lt_irrefl _)
    have hmapped : (below.nodes.map (under other)).map (·.1) = (below.nodes.map (·.1)).map (other :: ·) := by
      rw [List.map_map, List.map_map]
      rfl
    show (([other] : List ν) :: (below.nodes.map (under other) ++ rest.nodes).map (·.1)).Nodup
    rw [List.map_append, hmapped, List.nodup_cons, List.nodup_append']
    refine ⟨fun hmem => ?_, (ihbelow hbelow).map fun _ _ heq => (List.cons.inj heq).2, ih hwell, ?_⟩
    · rcases List.mem_append.mp hmem with hmem | hmem
      · obtain ⟨path, hpath, heq⟩ := List.mem_map.mp hmem
        obtain ⟨⟨found, node⟩, hnode, rfl⟩ := List.mem_map.mp hpath
        exact ne_nil_of_mem_nodes hnode (List.cons.inj heq).2
      · exact hfresh [] hmem
    · intro path hpath
      obtain ⟨inner, -, rfl⟩ := List.mem_map.mp hpath
      exact hfresh inner

/-- One path has one node. -/
theorem node_unique (ht : t.WellFormed valid) {node' : Node α} (h : (path, node) ∈ t.nodes)
    (h' : (path, node') ∈ t.nodes) : node = node' :=
  (Prod.mk.inj (List.inj_on_of_nodup_map (nodup_nodes ht) h h' rfl)).2

/-- Nothing is below a leaf. -/
theorem eq_nil_of_leaf (ht : t.WellFormed valid) (h : (path, .leaf value) ∈ t.nodes)
    (h' : (path ++ more, node) ∈ t.nodes) : more = [] := by
  by_contra hmore
  have hdirectory := directory_of_mem_nodes h' (ne_nil_of_mem_nodes h) hmore
  cases node_unique ht h hdirectory

end Listing

end DirectoryTree
