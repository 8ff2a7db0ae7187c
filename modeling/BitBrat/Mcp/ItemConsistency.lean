import BitBrat.Mcp.ClientManager

/-! A table of items, next to what the connected servers have listed last. -/

namespace BitBrat

open Js

namespace ItemTable

variable {ρ α : Type}

/-- Some server has listed the item last. -/
def Lists (table : ItemTable α) (id : String) (item : α) : Prop :=
  ∃ server listing, table.listed.get? server = some listing ∧ listing.get? id = some item

/-- The items are exactly those that the servers have listed last. -/
def Consistent (table : ItemTable α) : Prop :=
  ∀ id item, table.items.get? id = some item ↔ table.Lists id item

/-- The identifiers on record are those of the last listings, and every item names its server. -/
structure Sound (kind : ItemKind ρ α) (table : ItemTable α) : Prop where
  owns : ∀ server id, id ∈ (table.serverItems.get? server).getD [] ↔
    ∃ listing, table.listed.get? server = some listing ∧ (listing.get? id).isSome = true
  origin : ∀ server listing id item, table.listed.get? server = some listing →
    listing.get? id = some item → kind.originServer item = some server
  consistent : table.Consistent

def NothingShared (kind : ItemKind ρ α) (table : ItemTable α) (server : String)
    (roles : Option (List String)) (answer : Option (List ρ)) : Prop :=
  ∀ raw ∈ answer.getD [], ∀ entry ∈ table.listed.entries, entry.1 ≠ server →
    entry.2.get? (kind.id (kind.translate server roles raw)) = none

/-- Nothing that the server has listed is missing from its answer. -/
def NothingGone (kind : ItemKind ρ α) (table : ItemTable α) (server : String)
    (roles : Option (List String)) (answer : Option (List ρ)) : Prop :=
  ∀ raws ∈ answer, ∀ listing ∈ table.listed.get? server, ∀ entry ∈ listing.entries,
    entry.1 ∈ (raws.map (kind.translate server roles)).map kind.id

variable {kind : ItemKind ρ α} {table : ItemTable α} {server : String}
variable {roles : Option (List String)}

theorem sound_empty : Sound kind (ItemTable.empty : ItemTable α) where
  owns server id := by simp [empty]
  origin server listing id item listed := by simp [empty] at listed
  consistent id item := by simp [empty, Lists]

theorem origin_register {listing : List ρ} {id : String} {item : α}
    (found : (register kind.id .empty (listing.map (kind.translate server roles))).get? id =
      some item) : kind.originServer item = some server := by
  obtain ⟨raw, _, rfl⟩ := List.mem_map.mp (mem_of_register_empty found)
  exact kind.origin_translate server roles raw

theorem get?_listed_discover (kind : ItemKind ρ α) (table : ItemTable α) (server : String)
    (roles : Option (List String)) (listing : List ρ) (other : String) :
    (table.discover kind server roles (some listing)).listed.get? other =
      if other = server then
        some (register kind.id .empty (listing.map (kind.translate server roles)))
      else table.listed.get? other :=
  OrderedMap.get?_set ..

theorem get?_listed_disconnect (table : ItemTable α) (server other : String) :
    (table.disconnect server).listed.get? other =
      if other = server then none else table.listed.get? other :=
  OrderedMap.get?_erase table.listed server other

private theorem Sound.server_eq (sound : Sound kind table) {first second id : String}
    {listing other : OrderedMap String α} {item same : α}
    (lists : table.listed.get? first = some listing) (found : listing.get? id = some item)
    (lists_too : table.listed.get? second = some other) (found_too : other.get? id = some same) :
    first = second := by
  -- Both have the one item that is registered under the identifier, and it names its server.
  have held := (sound.consistent id item).mpr ⟨first, listing, lists, found⟩
  have held_too := (sound.consistent id same).mpr ⟨second, other, lists_too, found_too⟩
  have equal : same = item := Option.some.inj (held_too.symm.trans held)
  have origin := sound.origin first listing id item lists found
  have origin_too := sound.origin second other id same lists_too found_too
  rw [equal, origin] at origin_too
  exact Option.some.inj origin_too

private theorem Sound.of_discover_consistent (sound : Sound kind table) {listing : List ρ}
    (consistent : (table.discover kind server roles (some listing)).Consistent) :
    NothingShared kind table server roles (some listing) ∧
      NothingGone kind table server roles (some listing) := by
  -- The items after the answer are those answered, over those that were there before.
  have listed := get?_listed_discover kind table server roles listing
  have items := get?_register kind.id table.items (listing.map (kind.translate server roles))
  constructor
  · -- Another server that lists the identifier would have its own item under it.
    intro raw member entry present apart
    by_contra shared
    obtain ⟨item, found⟩ := Option.ne_none_iff_exists'.mp shared
    have stored : table.listed.get? entry.1 = some entry.2 :=
      lookup_of_mem table.listed.distinct present
    have theirs := (consistent _ item).mpr
      ⟨entry.1, entry.2, (listed entry.1).trans ((if_neg apart).trans stored), found⟩
    have answered := (isSome_register_empty kind.id (listing.map (kind.translate server roles))
      (kind.id (kind.translate server roles raw))).mpr
        (List.mem_map_of_mem (List.mem_map_of_mem member))
    obtain ⟨own, registered⟩ := Option.isSome_iff_exists.mp answered
    have held := items (kind.id (kind.translate server roles raw))
    rw [registered, Option.some_or] at held
    have same : own = item := Option.some.inj (held.symm.trans theirs)
    have origin := origin_register registered
    rw [same, sound.origin _ _ _ _ stored found] at origin
    exact apart (Option.some.inj origin)
  · -- An identifier that is gone would still have its item.
    intro raws answered before present entry member
    cases answered
    by_contra gone
    have stored : before.get? entry.1 = some entry.2 := lookup_of_mem before.distinct member
    have there := (sound.consistent entry.1 entry.2).mpr ⟨server, before, present, stored⟩
    have missing : (register kind.id .empty
        (listing.map (kind.translate server roles))).get? entry.1 = none := by
      by_contra found
      exact gone ((isSome_register_empty ..).mp (Option.isSome_iff_ne_none.mpr found))
    have held := items entry.1
    rw [missing, Option.none_or, there] at held
    obtain ⟨other, theirs, lists, found⟩ := (consistent entry.1 entry.2).mp held
    rw [listed] at lists
    split at lists
    · cases lists
      rw [missing] at found
      cases found
    · rename_i apart
      exact apart (sound.server_eq lists found present stored)

private theorem Sound.discover_consistent (sound : Sound kind table) {listing : List ρ}
    (shared : NothingShared kind table server roles (some listing))
    (gone : NothingGone kind table server roles (some listing)) :
    (table.discover kind server roles (some listing)).Consistent := by
  -- Under each identifier, either the answer decides or what was there before.
  have listed := get?_listed_discover kind table server roles listing
  have items := get?_register kind.id table.items (listing.map (kind.translate server roles))
  intro id item
  have held : (table.discover kind server roles (some listing)).items.get? id = _ := items id
  rw [held]
  cases answered : (register kind.id .empty
      (listing.map (kind.translate server roles))).get? id with
  | some own =>
    rw [Option.some_or]
    constructor
    · intro same
      cases same
      exact ⟨server, _, (listed server).trans (if_pos rfl), answered⟩
    · -- No other server lists the identifier.
      rintro ⟨other, theirs, lists, found⟩
      rw [listed] at lists
      split at lists
      · cases lists
        exact answered.symm.trans found
      · rename_i apart
        have named := (isSome_register_empty kind.id _ id).mp
          (Option.isSome_iff_exists.mpr ⟨own, answered⟩)
        obtain ⟨translated, among, rfl⟩ := List.mem_map.mp named
        obtain ⟨raw, raw_listed, rfl⟩ := List.mem_map.mp among
        have absent := shared raw raw_listed (other, theirs) (mem_of_lookup lists) apart
        rw [found] at absent
        cases absent
  | none =>
    -- Nothing is answered under the identifier, so what was there before decides.
    rw [Option.none_or, sound.consistent id item]
    constructor
    · rintro ⟨other, theirs, lists, found⟩
      refine ⟨other, theirs, (listed other).trans ?_, found⟩
      by_cases own : other = server
      · -- What the server has listed before is in its answer again.
        subst own
        have again := gone listing rfl theirs lists (id, item) (mem_of_lookup found)
        have present := (isSome_register_empty ..).mpr again
        rw [answered] at present
        cases present
      · rw [if_neg own]
        exact lists
    · rintro ⟨other, theirs, lists, found⟩
      rw [listed] at lists
      split at lists
      · cases lists
        rw [answered] at found
        cases found
      · exact ⟨other, theirs, lists, found⟩

private theorem Sound.discover_consistent_iff (sound : Sound kind table)
    (answer : Option (List ρ)) : (table.discover kind server roles answer).Consistent ↔
      NothingShared kind table server roles answer ∧
        NothingGone kind table server roles answer := by
  cases answer with
  | none => simpa [discover, NothingShared, NothingGone] using sound.consistent
  | some listing =>
    exact ⟨sound.of_discover_consistent, fun fits => sound.discover_consistent fits.1 fits.2⟩

theorem Sound.discover (sound : Sound kind table) {answer : Option (List ρ)}
    (consistent : (table.discover kind server roles answer).Consistent) :
    Sound kind (table.discover kind server roles answer) := by
  -- The answer of the server takes the place of what it has listed before.
  cases answer with
  | none => exact sound
  | some listing =>
    have listed := get?_listed_discover kind table server roles listing
    refine ⟨fun other id => ?_, fun other theirs id item lists found => ?_, consistent⟩
    · rw [listed]
      simp only [ItemTable.discover, OrderedMap.get?_set]
      by_cases own : other = server
      · -- The identifiers on record are those of the answer.
        simp only [own, ↓reduceIte, Option.getD_some, Option.some.injEq, exists_eq_left']
        exact (isSome_register_empty ..).symm
      · simp only [own, ↓reduceIte]
        exact sound.owns other id
    · rw [listed] at lists
      split at lists
      · rename_i own
        cases lists
        rw [own]
        exact origin_register found
      · exact sound.origin _ _ _ _ lists found

theorem Sound.disconnect (sound : Sound kind table) (server : String) :
    Sound kind (table.disconnect server) := by
  -- Soundness says whose identifiers are on record, and that nobody else lists them.
  have listed := get?_listed_disconnect table server
  refine ⟨fun other id => ?_, fun other theirs id item lists found => ?_, fun id item => ?_⟩
  · -- The identifiers on record go together with the listing.
    rw [listed]
    simp only [ItemTable.disconnect, OrderedMap.get?_erase]
    by_cases own : other = server
    · simp [own]
    · simp only [own, ↓reduceIte]
      exact sound.owns other id
  · rw [listed] at lists
    split at lists
    · cases lists
    · exact sound.origin _ _ _ _ lists found
  · simp only [ItemTable.disconnect, get?_unregister]
    by_cases own : id ∈ (table.serverItems.get? server).getD []
    · -- An identifier of the server is listed by no other one.
      rw [if_pos own]
      refine ⟨fun found => (by cases found), ?_⟩
      rintro ⟨other, theirs, lists, found⟩
      rw [OrderedMap.get?_erase] at lists
      split at lists
      · cases lists
      · rename_i apart
        obtain ⟨mine, lists_mine, present⟩ := (sound.owns server id).mp own
        obtain ⟨kept, found_mine⟩ := Option.isSome_iff_exists.mp present
        exact absurd (sound.server_eq lists found lists_mine found_mine) apart
    · -- An identifier that the server has not listed stays with whoever has.
      rw [if_neg own, sound.consistent id item]
      constructor
      · rintro ⟨other, theirs, lists, found⟩
        refine ⟨other, theirs, ?_, found⟩
        rw [OrderedMap.get?_erase, if_neg, lists]
        rintro rfl
        exact own ((sound.owns other id).mpr ⟨theirs, lists, by rw [found]; rfl⟩)
      · rintro ⟨other, theirs, lists, found⟩
        rw [OrderedMap.get?_erase] at lists
        split at lists
        · cases lists
        · exact ⟨other, theirs, lists, found⟩

/-- The items that other servers have listed are there after a step of a server. -/
def OthersKept (before after : ItemTable α) (server : String) : Prop :=
  ∀ other listing id item, other ≠ server → before.listed.get? other = some listing →
    listing.get? id = some item → after.items.get? id = some item

private theorem Consistent.othersKept {before after : ItemTable α} (consistent : after.Consistent)
    (same : ∀ other, other ≠ server → after.listed.get? other = before.listed.get? other) :
    OthersKept before after server := by
  intro other listing id item apart lists found
  exact (consistent id item).mpr ⟨other, listing, (same other apart).trans lists, found⟩

/-- The items are exactly those that the connected servers have listed last. -/
def ExactFor (clients : OrderedMap String String) (table : ItemTable α) : Prop :=
  ∀ id item, table.items.get? id = some item ↔ ∃ server listing,
    (clients.get? server).isSome = true ∧ table.listed.get? server = some listing ∧
      listing.get? id = some item

/-- What a step of a server leaves: the right items, with all that other servers have listed. -/
structure Law (clients : OrderedMap String String) (before after : ItemTable α)
    (server : String) : Prop where
  exact : after.ExactFor clients
  others : OthersKept before after server

structure Tracks (kind : ItemKind ρ α) (clients : OrderedMap String String)
    (table : ItemTable α) : Prop extends Sound kind table where
  connected : ∀ server listing, table.listed.get? server = some listing →
    (clients.get? server).isSome = true

variable {clients : OrderedMap String String}

theorem exactFor_iff
    (connected : ∀ server listing, table.listed.get? server = some listing →
    (clients.get? server).isSome = true) : table.ExactFor clients ↔ table.Consistent := by
  refine forall_congr' fun id => forall_congr' fun item => iff_congr Iff.rfl ?_
  constructor
  · rintro ⟨server, listing, _, lists, found⟩
    exact ⟨server, listing, lists, found⟩
  · rintro ⟨server, listing, lists, found⟩
    exact ⟨server, listing, connected server listing lists, lists, found⟩

private theorem Tracks.connected_discover (tracks : Tracks kind clients table)
    (there : (clients.get? server).isSome = true) (answer : Option (List ρ)) :
    ∀ other listing, (table.discover kind server roles answer).listed.get? other = some listing →
      (clients.get? other).isSome = true := by
  intro other listing lists
  cases answer with
  | none => exact tracks.connected other listing lists
  | some raws =>
    rw [get?_listed_discover] at lists
    split at lists
    · rename_i own
      exact own ▸ there
    · exact tracks.connected other listing lists

theorem listed_discover_of_ne (kind : ItemKind ρ α) (table : ItemTable α)
    (roles : Option (List String)) (answer : Option (List ρ)) {other : String}
    (apart : other ≠ server) :
    (table.discover kind server roles answer).listed.get? other = table.listed.get? other := by
  cases answer with
  | none => rfl
  | some raws => rw [get?_listed_discover, if_neg apart]

theorem Tracks.discover_law_iff (tracks : Tracks kind clients table)
    (there : (clients.get? server).isSome = true) (roles : Option (List String))
    (answer : Option (List ρ)) :
    Law clients table (table.discover kind server roles answer) server ↔
      NothingShared kind table server roles answer ∧
        NothingGone kind table server roles answer := by
  -- The items of other servers are kept as soon as the items are right.
  rw [← tracks.discover_consistent_iff, ← exactFor_iff (tracks.connected_discover there answer)]
  constructor
  · exact Law.exact
  · intro exact_for
    have consistent := (exactFor_iff (tracks.connected_discover there answer)).mp exact_for
    exact ⟨exact_for, consistent.othersKept fun other apart =>
      listed_discover_of_ne kind table roles answer apart⟩

theorem Tracks.discover (tracks : Tracks kind clients table)
    (there : (clients.get? server).isSome = true) {answer : Option (List ρ)}
    (exact_for : (table.discover kind server roles answer).ExactFor clients) :
    Tracks kind clients (table.discover kind server roles answer) where
  toSound := tracks.toSound.discover
    ((exactFor_iff (tracks.connected_discover there answer)).mp exact_for)
  connected := tracks.connected_discover there answer

theorem Tracks.set (tracks : Tracks kind clients table) (name signature : String) :
    Tracks kind (clients.set name signature) table where
  toSound := tracks.toSound
  connected other listing lists := by
    rw [OrderedMap.get?_set]
    split
    · rfl
    · exact tracks.connected other listing lists

theorem Tracks.disconnect (tracks : Tracks kind clients table) (server : String) :
    Tracks kind (clients.erase server) (table.disconnect server) where
  toSound := tracks.toSound.disconnect server
  connected other listing lists := by
    rw [get?_listed_disconnect] at lists
    split at lists
    · cases lists
    · rename_i apart
      rw [OrderedMap.get?_erase, if_neg apart]
      exact tracks.connected other listing lists

theorem Tracks.law (tracks : Tracks kind clients table) {before : ItemTable α}
    (same : ∀ other, other ≠ server → table.listed.get? other = before.listed.get? other) :
    Law clients before table server :=
  ⟨(exactFor_iff tracks.connected).mpr tracks.consistent, tracks.consistent.othersKept same⟩

theorem fits_disconnect (answer : Option (List ρ)) :
    (NothingShared kind (table.disconnect server) server roles answer ∧
      NothingGone kind (table.disconnect server) server roles answer) ↔
      NothingShared kind table server roles answer := by
  -- After the disconnect nothing of the server is there that could be missing.
  have listed := get?_listed_disconnect table server
  constructor
  · rintro ⟨shared, _⟩ raw member entry present apart
    -- Another server's listing is still there.
    refine shared raw member entry (mem_of_lookup ?_) apart
    exact (listed entry.1).trans
      ((if_neg apart).trans (lookup_of_mem table.listed.distinct present))
  · intro shared
    refine ⟨fun raw member entry present apart => ?_, fun raws _ listing present => ?_⟩
    · have stored : (table.disconnect server).listed.get? entry.1 = some entry.2 :=
        lookup_of_mem (table.disconnect server).listed.distinct present
      rw [listed, if_neg apart] at stored
      exact shared raw member entry (mem_of_lookup stored) apart
    · have absent : (table.disconnect server).listed.get? server = none :=
        (listed server).trans (if_pos rfl)
      rw [absent] at present
      cases present

theorem Tracks.reconnect_law_iff (tracks : Tracks kind clients table) (signature : String)
    (roles : Option (List String)) (answer : Option (List ρ)) :
    Law ((clients.erase server).set server signature) table
        ((table.disconnect server).discover kind server roles answer) server ↔
      NothingShared kind table server roles answer := by
  -- The server asked is connected, and has nothing on record.
  have after := (tracks.disconnect server).set server signature
  have there : (((clients.erase server).set server signature).get? server).isSome = true := by
    simp
  rw [← fits_disconnect, ← after.discover_law_iff there roles answer]
  -- The other servers' listings are the same before and after the disconnect.
  have others : ∀ final : ItemTable α, OthersKept table final server ↔
      OthersKept (table.disconnect server) final server := by
    intro final
    refine forall_congr' fun other => forall_congr' fun listing => forall_congr' fun id =>
      forall_congr' fun item => forall_congr' fun apart => ?_
    rw [get?_listed_disconnect, if_neg apart]
  exact ⟨fun law => ⟨law.exact, (others _).mp law.others⟩,
    fun law => ⟨law.exact, (others _).mpr law.others⟩⟩

theorem Tracks.connect_law_iff (tracks : Tracks kind clients table)
    (absent : clients.get? server = none) (signature : String) (roles : Option (List String))
    (answer : Option (List ρ)) :
    Law (clients.set server signature) table (table.discover kind server roles answer) server ↔
      NothingShared kind table server roles answer := by
  have after := tracks.set server signature
  rw [after.discover_law_iff (by simp) roles answer]
  refine and_iff_left fun raws _ listing lists => ?_
  -- A server that is not connected has listed nothing.
  have connected := tracks.connected server listing lists
  rw [absent] at connected
  cases connected

end ItemTable

end BitBrat
