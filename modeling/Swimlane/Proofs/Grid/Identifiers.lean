import Mathlib.Data.List.Nodup
import Std.Data.String.ToNat
import Swimlane.Proofs.Grid.Conservation
import Swimlane.Proofs.Notation.Identifier

/-!
# The identifiers of a diagram

The band of a bucket asks for an identifier and is given a running number if others asked for the
same one before. Two running numbers never meet, and no band meets an element of a text, whose
identifier is a word. But a running number meets the plain identifier of a band whose own name ends
like it.

- `Band.numbered`, `Band.occurrences`: an identifier by how often it was asked for before, and how
  often each one of a list was.
- `Diagram.ids_perm`: the identifiers of a diagram.
- `Document.NumbersApart`: no band asks for an identifier that another one is given, which holds
  where no name has the mark of a running number in it.
- `Layout.generate_nodup_ids_iff`: exactly then the identifiers of a diagram differ.
-/

namespace Swimlane

namespace Band

/-- The identifier that is given after it was asked for `earlier` times. -/
def numbered (base : String) (earlier : Nat) : String :=
  if earlier = 0 then base else base ++ "#" ++ toString (earlier + 1)

/-- Each item of a list with how often it occurred before. -/
def occurrences (seen : List String) : List String → List (String × Nat)
  | [] => []
  | base :: rest => (base, seen.count base) :: occurrences (base :: seen) rest

theorem mem_occurrences {seen bases : List String} {base : String} {n : Nat} :
    (base, n) ∈ occurrences seen bases ↔
      seen.count base ≤ n ∧ n < seen.count base + bases.count base := by
  induction bases generalizing seen with
  | nil => simp [occurrences]
  | cons b rest ih =>
    rw [occurrences, List.mem_cons, ih, Prod.mk.injEq]
    by_cases hb : base = b
    · subst hb
      rw [List.count_cons_self, List.count_cons_self]
      simp only [true_and]
      omega
    · rw [List.count_cons_of_ne (Ne.symm hb), List.count_cons_of_ne (Ne.symm hb)]
      simp [hb]

/-- No occurrence is counted twice. -/
theorem nodup_occurrences (seen bases : List String) : (occurrences seen bases).Nodup := by
  induction bases generalizing seen with
  | nil => exact .nil
  | cons base rest ih =>
    refine List.nodup_cons.2 ⟨fun hmem => ?_, ih _⟩
    have hle := (mem_occurrences.1 hmem).1
    rw [List.count_cons_self] at hle
    omega

/-- The text behind the last mark is told apart from that in front of it. -/
theorem append_mark_inj {s t u v : List Char} (ht : '#' ∉ t) (hv : '#' ∉ v)
    (h : s ++ '#' :: t = u ++ '#' :: v) : s = u ∧ t = v := by
  -- one front continues the other; a mark in what it is continued by would stand behind the last one
  rcases List.append_eq_append_iff.1 h with ⟨m, rfl, hm⟩ | ⟨m, rfl, hm⟩
  · cases m with
    | nil => exact ⟨(List.append_nil s).symm, (List.cons.inj hm).2⟩
    | cons _ _ =>
      obtain ⟨-, rfl⟩ := List.cons.inj hm
      exact absurd (List.mem_append_right _ (.head _)) ht
  · cases m with
    | nil => exact ⟨List.append_nil u, (List.cons.inj hm).2.symm⟩
    | cons _ _ =>
      obtain ⟨-, rfl⟩ := List.cons.inj hm
      exact absurd (List.mem_append_right _ (.head _)) hv

/-- Running numbers never meet. -/
theorem append_number_inj {base base' : String} {n n' : Nat}
    (h : base ++ "#" ++ toString n = base' ++ "#" ++ toString n') : base = base' ∧ n = n' := by
  have hdigits (k : Nat) : '#' ∉ (Nat.repr k).toList := by
    intro hmem
    rw [Nat.toList_repr] at hmem
    have hdigit := Nat.isDigit_of_mem_toDigits (by decide) (by decide) hmem
    exact absurd hdigit (by decide)
  have hchars := congrArg String.toList h
  have hmark : "#".toList = ['#'] := rfl
  rw [String.toList_append, String.toList_append, String.toList_append, String.toList_append,
    hmark, List.append_assoc, List.append_assoc] at hchars
  obtain ⟨hbase, hnumber⟩ := append_mark_inj (hdigits n) (hdigits n') hchars
  exact ⟨String.toList_inj.1 hbase, Nat.repr_injective (String.toList_inj.1 hnumber)⟩

/-- The identifiers that are given differ unless one of them, with a running number, was also asked
for as it is. -/
theorem nodup_numbered_iff (bases : List String) :
    ((occurrences [] bases).map fun p => numbered p.1 p.2).Nodup ↔
      ∀ base n, 2 ≤ n → n ≤ bases.count base → base ++ "#" ++ toString n ∉ bases := by
  have hmem {base : String} {k : Nat} :
      (base, k) ∈ occurrences [] bases ↔ k < bases.count base := by
    rw [mem_occurrences]
    simp
  rw [List.nodup_map_iff_inj_on (nodup_occurrences [] bases)]
  constructor
  · intro hinj base n hn hcount hasked
    have hlater : (base, n - 1) ∈ occurrences [] bases := hmem.2 (by omega)
    have hfirst : (base ++ "#" ++ toString n, 0) ∈ occurrences [] bases :=
      hmem.2 (List.count_pos_iff.2 hasked)
    have hsame : numbered base (n - 1) = numbered (base ++ "#" ++ toString n) 0 := by
      rw [numbered, numbered, if_neg (by omega), if_pos rfl]
      congr 2
      omega
    have hpair := hinj _ hlater _ hfirst hsame
    have hzero : n - 1 = 0 := congrArg Prod.snd hpair
    omega
  · rintro hapart ⟨base, k⟩ hk ⟨base', k'⟩ hk' hsame
    have hk := hmem.1 hk
    have hk' := hmem.1 hk'
    by_cases hzero : k = 0
    · by_cases hzero' : k' = 0
      · subst hzero hzero'
        exact congrArg (·, 0) hsame
      · -- the first was asked for as it is, the second was given a number
        rw [numbered, numbered, if_pos hzero, if_neg hzero'] at hsame
        have hasked : base ∈ bases := List.count_pos_iff.1 (by omega)
        exact absurd (hsame ▸ hasked) (hapart base' (k' + 1) (by omega) (by omega))
    · by_cases hzero' : k' = 0
      · rw [numbered, numbered, if_neg hzero, if_pos hzero'] at hsame
        have hasked : base' ∈ bases := List.count_pos_iff.1 (by omega)
        exact absurd (hsame ▸ hasked) (hapart base (k + 1) (by omega) (by omega))
      · rw [numbered, numbered, if_neg hzero, if_neg hzero'] at hsame
        obtain ⟨rfl, hnumber⟩ := append_number_inj hsame
        exact congrArg (base, ·) (Nat.succ.inj hnumber)

/-- The identifiers of shelves are those asked for, with their running numbers. -/
theorem map_id_shelve (members : Bucket → List Element) (c : Claims) (keys : List Bucket) :
    (shelve members c keys).map (·.id) =
      (occurrences c.ids (keys.map (·.bandBase))).map fun p => numbered p.1 p.2 := by
  induction keys generalizing c with
  | nil => rfl
  | cons k rest ih => rw [shelve, List.map_cons, ih]; rfl

/-- Every identifier that a band asks for has a hyphen. -/
theorem hyphen_mem_bandBase (b : Bucket) : '-' ∈ b.bandBase.toList := by
  cases b <;> simp [Bucket.bandBase, Bucket.poolBandId, Bucket.id, Bucket.laneBandId,
    Bucket.unassignedBandId]

/-- The first letter of the identifier that a band asks for. -/
def initial : Bucket → Char
  | .lane _ _ => 'l'
  | .root _ => 'p'
  | .unassigned => 'b'

theorem head?_bandBase (b : Bucket) : b.bandBase.toList.head? = some (initial b) := by
  cases b <;> simp [initial, Bucket.bandBase, Bucket.poolBandId, Bucket.id, Bucket.laneBandId,
    Bucket.unassignedBandId]

/-- The first letter of the identifier of a band tells its kind, whatever number it was given. -/
theorem head?_id_of_mem_shelve {members : Bucket → List Element} {c : Claims} {keys : List Bucket}
    {s : Shelf} (hs : s ∈ shelve members c keys) :
    s.id.toList.head? = some (initial s.bucket) := by
  induction keys generalizing c with
  | nil => cases hs
  | cons k rest ih =>
    rcases List.mem_cons.1 hs with rfl | hs
    · obtain ⟨suffix, hid⟩ := c.exists_bandId_eq k.bandBase
      show (c.bandId k.bandBase).toList.head? = some (initial k)
      rw [hid, String.toList_append, List.head?_append, head?_bandBase]
      rfl
    · exact ih hs

theorem hyphen_mem_numbered {base : String} (h : '-' ∈ base.toList) (n : Nat) :
    '-' ∈ (numbered base n).toList := by
  by_cases hn : n = 0
  · rwa [numbered, if_pos hn]
  · rw [numbered, if_neg hn, String.toList_append, String.toList_append]
    exact List.mem_append_left _ (List.mem_append_left _ h)

end Band

namespace Document

/-- The identifiers that the bands of a document ask for. -/
def bandBases (d : Document) : List String := d.neededBands.map (·.bandBase)

/-- No band asks for an identifier that another one is given because it asks for the same as an
earlier one: where `base` is asked for so often that some band is the `n`-th to do so, no band asks
for `base#n`. -/
def NumbersApart (d : Document) : Prop :=
  ∀ base n, 2 ≤ n → n ≤ d.bandBases.count base → base ++ "#" ++ toString n ∉ d.bandBases

theorem nodup_shelf_ids_iff (d : Document) :
    (d.shelves.map (·.id)).Nodup ↔ d.NumbersApart := by
  have hperm : (d.bandBuckets.map (·.bandBase)).Perm d.bandBases :=
    d.bandBuckets_perm.map _
  have hids := Band.map_id_shelve d.membersOf .none d.bandBuckets
  rw [← shelves_eq_shelve] at hids
  rw [hids, Band.Claims.none, Band.nodup_numbered_iff, NumbersApart]
  simp only [hperm.mem_iff, hperm.count_eq]

/-- Where no pool and no lane has the mark of a running number in its name, numbers are apart. -/
theorem numbersApart_of_not_mem_mark {d : Document}
    (hpools : ∀ p ∈ d.pools, '#' ∉ p.name.toList)
    (hlanes : ∀ l ∈ d.lanes, '#' ∉ l.pool.toList ∧ '#' ∉ l.name.toList) : d.NumbersApart := by
  intro base n _ _ hmem
  obtain ⟨b, hb, hbase⟩ := List.mem_map.1 hmem
  have hmark : '#' ∈ b.bandBase.toList := by
    rw [hbase]
    simp
  rcases mem_neededBands.1 hb with ⟨p, hp, rfl⟩ | ⟨q, hq, rfl⟩ | ⟨l, hl, rfl⟩ | ⟨rfl, -⟩
  · simp [Bucket.bandBase, Bucket.poolBandId, hpools p hp] at hmark
  · obtain ⟨l, hl, rfl⟩ := List.mem_map.1 (List.mem_of_mem_filter (mem_distinct.1 hq))
    simp [Bucket.bandBase, Bucket.poolBandId, hlanes l hl] at hmark
  · simp [Bucket.bandBase, Lane.bucket, Bucket.id, Bucket.laneBandId, hlanes l hl] at hmark
  · simp [Bucket.bandBase, Bucket.id, Bucket.unassignedBandId] at hmark

/-- The identifier of every band has a hyphen. -/
theorem hyphen_mem_of_mem_shelves {d : Document} {id : String} (h : id ∈ d.shelves.map (·.id)) :
    '-' ∈ id.toList := by
  rw [shelves_eq_shelve, Band.map_id_shelve] at h
  obtain ⟨⟨base, n⟩, hmem, rfl⟩ := List.mem_map.1 h
  have hcount := (Band.mem_occurrences.1 hmem).2
  have hbase : base ∈ d.bandBuckets.map (·.bandBase) := by
    rw [← List.count_pos_iff]
    simp only [Band.Claims.none, List.count_nil] at hcount
    omega
  obtain ⟨b, -, rfl⟩ := List.mem_map.1 hbase
  exact Band.hyphen_mem_numbered (Band.hyphen_mem_bandBase b) n

end Document

variable {α : Type}

/-- The identifiers among nodes of shelves are those of the bands and those of the members. -/
theorem Grid.Shelf.ids_perm {shelves : List (Shelf α)} {shown : List Band.Shelf}
    (h : List.Forall₂ Shows shelves shown) :
    ((shelves.flatMap housed).map (·.1.id)).Perm
      (shown.map (·.id) ++ (shown.flatMap (·.members)).map (·.id)) := by
  induction h with
  | nil => exact .nil
  | @cons s b _ shown hs _ ih =>
    have hhoused : s.housed.map (·.1.id) = b.id :: b.members.map (·.id) := by
      rw [housed, List.map_cons, hs.id, contents, List.map_map, hs.members]
      rfl
    rw [List.flatMap_cons, List.map_append, hhoused, List.flatMap_cons, List.map_append,
      List.map_cons]
    exact .cons _ ((ih.append_left _).trans (List.perm_append_comm_assoc _ _ _))

variable [Scalar α]

/-- The identifiers of a diagram are those of the bands of its document and those of its
elements. -/
theorem Diagram.ids_perm (d : Document) {config : Grid.Config α} {box : String → Box α} {width : α}
    {diagram : Diagram α} (hnodes : diagram.nodes = Grid.nodes config box width d.bands) :
    (diagram.nodes.map (·.id)).Perm (d.shelves.map (·.id) ++ d.uniqueElements.map (·.id)) := by
  obtain ⟨shelves, hshows, hhoused⟩ := Grid.exists_shelves_nodes config box width d.bands
  have hids : diagram.nodes.map (·.id) = (shelves.flatMap Grid.Shelf.housed).map (·.1.id) := by
    rw [hnodes, ← Nesting.map_fst_housed .outside (Grid.nodes config box width d.bands), hhoused,
      List.map_map]
    rfl
  rw [hids]
  exact (Grid.Shelf.ids_perm hshows).trans ((d.members_shelves_perm.map _).append_left _)

namespace Layout

/-- In a document whose elements have no hyphen in their identifiers, only bands can clash. -/
theorem nodup_ids_iff {l : Layout α} {d : Document} (hplaces : l.Places d)
    (hhyphen : ∀ e ∈ d.elements, '-' ∉ e.id.toList) :
    ∃ diagram, l.diagram d = .ok diagram ∧
      ((diagram.nodes.map (·.id)).Nodup ↔ d.NumbersApart) := by
  obtain ⟨boxes, hdiagram⟩ := exists_diagram_of_places hplaces
  have hids : ((l.compose d boxes).nodes.map (·.id)).Perm
      (d.shelves.map (·.id) ++ d.uniqueElements.map (·.id)) :=
    Diagram.ids_perm d rfl
  have hapart : (d.shelves.map (·.id)).Disjoint (d.uniqueElements.map (·.id)) := by
    intro id hband hmem
    obtain ⟨e, he, rfl⟩ := List.mem_map.1 hmem
    exact hhyphen e ((distinctBy_sublist _ _).mem he) (Document.hyphen_mem_of_mem_shelves hband)
  refine ⟨_, hdiagram, ?_⟩
  rw [hids.nodup_iff, List.nodup_append', ← d.nodup_shelf_ids_iff]
  exact ⟨fun h => h.1, fun h => ⟨h, d.nodup_ids, hapart⟩⟩

/-- **Unique identifiers**: every text has a diagram, and the identifiers of its nodes differ
exactly if no band asks for an identifier that another one is given with a running number. -/
theorem generate_nodup_ids_iff (config : Grid.Config α) (solver : Layered.Config α)
    (text : String) :
    ∃ diagram, (layered config solver).generate text = .ok diagram ∧
      ((diagram.nodes.map (·.id)).Nodup ↔ (Notation.parse text).NumbersApart) :=
  nodup_ids_iff (layered_places config solver _) fun _ he =>
    (Notation.isWord_of_mem_parse he).not_mem_hyphen

/-- A pool that is declared twice, and one that is named like the second band of the first. -/
def repeatedPool : String := "pool: a\npool: a\npool: a#2"

theorem generate_repeatedPool :
    ∃ diagram, (standard : Layout Rat).generate repeatedPool = .ok diagram ∧
      diagram.nodes.map (·.id) = ["pool-a", "pool-a#2", "pool-a#2"] ∧
      ¬ (diagram.nodes.map (·.id)).Nodup := by
  have hids : ((standard : Layout Rat).generate repeatedPool).map (·.nodes.map (·.id)) =
      .ok ["pool-a", "pool-a#2", "pool-a#2"] := by
    decide +kernel
  cases hgenerate : (standard : Layout Rat).generate repeatedPool with
  | error _ =>
    rw [hgenerate] at hids
    cases hids
  | ok diagram =>
    rw [hgenerate] at hids
    have hclash : diagram.nodes.map (·.id) = ["pool-a", "pool-a#2", "pool-a#2"] :=
      Except.ok.inj hids
    exact ⟨diagram, rfl, hclash, by rw [hclash]; decide⟩

end Layout

end Swimlane
