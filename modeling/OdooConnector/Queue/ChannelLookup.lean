import OdooConnector.Queue.ChannelCapacity

/-!
# Channels that names lead to

A channel that does not exist is created under the nearest parent that does, so that a name may lead
to another channel when there are more of them. Of the channels that were there all the time it
leads to the same ones.
-/

namespace OdooConnector.Queue

namespace ChannelManager

variable {manager earlier later : ChannelManager} {path place : ChannelPath} {name : String}

/-- The channels of one manager are among those of another one. -/
def IsExtendedBy (earlier later : ChannelManager) : Prop :=
  ∀ path ∈ earlier.paths, path ∈ later.paths

theorem createChannels_path (names : List String) :
    (manager.createChannels names path).1 = names.reverse ++ path := by
  induction names generalizing path manager with
  | nil => rfl
  | cons name names induction =>
      rw [createChannels, List.reverse_cons, List.append_assoc, List.singleton_append]
      split
      · exact induction
      · exact induction

theorem fallbackParent_suffix : manager.fallbackParent path <:+ path.tail := by
  induction path with
  | nil => exact List.suffix_rfl
  | cons name parent induction =>
      rw [fallbackParent, List.tail_cons]
      split
      · exact List.suffix_rfl
      · exact induction.trans (List.tail_suffix parent)

/-- No existing parent is nearer than the nearest one. -/
theorem suffix_fallbackParent (listed : place ∈ manager.paths) (above : place <:+ path)
    (inner : place ≠ path) : place <:+ manager.fallbackParent path := by
  induction path with
  | nil => exact absurd (List.suffix_nil.mp above) inner
  | cons name parent induction =>
      have above : place <:+ parent := (List.suffix_cons_iff.mp above).resolve_left inner
      rw [fallbackParent]
      split
      · exact above
      · rename_i missing
        exact induction above fun same => missing (same ▸ listed)

/-- A name leads to its own path, or to that below the nearest parent. -/
theorem lookup_cases (manager : ChannelManager) (name : String) :
    (manager.getChannelByName name).1 = pathOfName name ∨
      (pathOfName name ≠ [] ∧ pathOfName name ∉ manager.paths ∧
        (manager.getChannelByName name).1 =
          pathOfName name ++ manager.fallbackParent (pathOfName name)) := by
  rw [getChannelByName]
  split
  · exact .inl rfl
  · rename_i missing
    rw [not_or] at missing
    refine .inr ⟨missing.1, missing.2, ?_⟩
    rw [createChannels_path, List.reverse_reverse]

/-- Existing channels above the path of a name are above the channel that it leads to. -/
theorem suffix_lookup (listed : place ∈ manager.paths) (above : place <:+ pathOfName name) :
    place <:+ (manager.getChannelByName name).1 := by
  rcases manager.lookup_cases name with same | ⟨-, missing, same⟩
  · rwa [same]
  · rw [same]
    have inner : place ≠ pathOfName name := fun equal => missing (equal ▸ listed)
    exact (suffix_fallbackParent listed above inner).trans (List.suffix_append _ _)

theorem mem_of_suffix (tree : ChannelTree) (listed : path ∈ tree.paths) (above : place <:+ path) :
    place ∈ tree.paths :=
  @suffix_mem_paths (Session.start tree).manager path place tree.closed listed above

/-- A channel of the tree that is above where a name leads to was above it earlier. -/
theorem suffix_lookup_earlier (tree : ChannelTree)
    (exists' : ∀ path ∈ tree.paths, path ∈ earlier.paths) (extends' : earlier.IsExtendedBy later)
    (listed : place ∈ tree.paths) (above : place <:+ (later.getChannelByName name).1) :
    place <:+ (earlier.getChannelByName name).1 := by
  by_cases direct : place <:+ pathOfName name
  · exact suffix_lookup (exists' place listed) direct
  · obtain ⟨given, missing, same⟩ : pathOfName name ≠ [] ∧ pathOfName name ∉ later.paths ∧ _ :=
      (later.lookup_cases name).resolve_left fun same => direct (same ▸ above)
    have before : pathOfName name ∉ earlier.paths := fun old => missing (extends' _ old)
    have parents : (earlier.getChannelByName name).1 =
        pathOfName name ++ earlier.fallbackParent (pathOfName name) := by
      rw [getChannelByName]
      simp only [given, before, or_self, if_false]
      rw [createChannels_path, List.reverse_reverse]
    have below (manager : ChannelManager) :
        manager.fallbackParent (pathOfName name) <:+ pathOfName name :=
      fallbackParent_suffix.trans (List.tail_suffix _)
    -- the tree reaches further than the nearest parent, so that this is the nearest one all along
    have nearest : later.fallbackParent (pathOfName name) <:+ place := by
      rcases List.suffix_or_suffix_of_suffix (same ▸ above) (List.suffix_append _ _) with
        inner | outer
      · exact absurd (inner.trans (below later)) direct
      · exact outer
    have old := exists' _ (mem_of_suffix tree listed nearest)
    have front := suffix_fallbackParent old (below later) fun equal => before (equal ▸ old)
    have root : [] ∈ earlier.paths := exists' [] tree.root
    have back : earlier.fallbackParent (pathOfName name) <:+
        later.fallbackParent (pathOfName name) := by
      refine suffix_fallbackParent (extends' _ (fallbackParent_mem root)) (below earlier)
        fun equal => ?_
      exact before (equal ▸ fallbackParent_mem root)
    rw [parents, back.eq_of_length_le front.length_le, ← same]
    exact above

end ChannelManager

end OdooConnector.Queue
