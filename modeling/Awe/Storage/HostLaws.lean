import Awe.Reference
import Awe.Rust.Run
import Awe.Storage.Host

/-! When the cache of a host makes no difference to what it serves. -/

namespace Awe

open Rust

/-- What a host is asked for. -/
inductive HostCall where
  | get (manifest : SiteManifest) (path : String)
  | getAuthorized (manifest : SiteManifest) (path : String) (map : Option AccessMap)

namespace HostCall

/-- The site that is asked for. -/
def manifest : HostCall → SiteManifest
  | .get manifest _ => manifest
  | .getAuthorized manifest _ _ => manifest

/-- The path that is asked for. -/
def path : HostCall → String
  | .get _ path => path
  | .getAuthorized _ path _ => path

/-- Whether the one who asks may see the site. -/
def Admitted (P : Primitives) : HostCall → Prop
  | .get _ _ => True
  | .getAuthorized manifest _ map => manifest.authorize P map = true

end HostCall

namespace AweHost

/-- What a host answers to a call. -/
def answer (P : Primitives) (self : AweHost) : HostCall → Except IoError Bytes × AweHost
  | .get manifest path => self.get P manifest path
  | .getAuthorized manifest path map => self.getAuthorized P manifest path map

/-- The host with an empty cache. -/
def uncached (self : AweHost) : AweHost := { self with cache := ∅ }

/--
What the cache holds for the path of a call is what the site of the call has there.

A call that is turned away does not reach the cache.
-/
def Listed (P : Primitives) (self : AweHost) (call : HostCall) : Prop :=
  call.Admitted P → ∀ clean data, normalizePath call.path = .ok clean →
    self.cache[clean]? = some data →
      ∃ file, call.manifest.files.find? (fun file => file.path = clean) = some file ∧
        file.objectId = contentId P data ∧ file.size = UInt64.ofNat data.length

/-- Every file in the cache is in the store. -/
def Backed (P : Primitives) (self : AweHost) : Prop :=
  ∀ (path : String) data, self.cache[path]? = some data → self.store.get P (contentId P data) = .ok data

variable {P : Primitives} {self : AweHost} {manifest : SiteManifest} {path clean : String}
  {data : Bytes}

/-- Without a cache, exactly the file that the site lists is served. -/
theorem get_uncached_ok (normal : normalizePath path = .ok clean) :
    (self.uncached.get P manifest path).1 = .ok data ↔
      ∃ file, manifest.files.find? (fun file => file.path = clean) = some file ∧
        self.store.get P file.objectId = .ok data ∧ file.size = UInt64.ofNat data.length := by
  have nothing : (∅ : BTreeMap String Bytes)[clean]? = none := Std.ExtTreeMap.getElem?_empty
  simp only [get, normal, uncached, nothing]
  -- Without a cache the page is the file that is listed under the path.
  cases listed : manifest.files.find? fun file => file.path = clean with
  | none => simp
  | some file =>
    dsimp only
    cases read : self.store.get P file.objectId with
    | error error => simp [read]
    | ok object =>
      have named := LocalNodeStore.contentId_of_get read
      dsimp only
      by_cases sized : UInt64.ofNat object.length = file.size
      · simp [sized, named, read]
        rintro rfl
        exact sized.symm
      · simp [sized, read]
        rintro rfl same
        exact sized same.symm

/-- A file that is in the cache is served from there. -/
theorem get_cached (normal : normalizePath path = .ok clean) (cached : self.cache[clean]? = some data) :
    self.get P manifest path = (.ok data, self) := by simp only [get, normal, cached]

/-- A file that is not in the cache is read from the store, and remembered. -/
theorem get_read {file : HostedFile} (normal : normalizePath path = .ok clean)
    (missing : self.cache[clean]? = none)
    (listed : manifest.files.find? (fun file => file.path = clean) = some file)
    (read : self.store.get P file.objectId = .ok data)
    (sized : file.size = UInt64.ofNat data.length) :
    self.get P manifest path = (.ok data, self.remember clean data) := by
  have named := LocalNodeStore.contentId_of_get read
  simp [get, normal, missing, listed, read, sized, named]

/-- Where the cache does not know a path, it makes no difference. -/
theorem get_missing (normal : normalizePath path = .ok clean) (missing : self.cache[clean]? = none) :
    (self.get P manifest path).1 = (self.uncached.get P manifest path).1 := by
  have nothing : (∅ : BTreeMap String Bytes)[clean]? = none := Std.ExtTreeMap.getElem?_empty
  simp only [get, normal, missing, uncached, nothing]
  cases manifest.files.find? fun file => file.path = clean with
  | none => rfl
  | some file =>
    dsimp only
    cases self.store.get P file.objectId with
    | error error => rfl
    | ok object =>
      dsimp only
      split <;> rfl

variable (manifest path) in
/-- A host serves what it would serve without a cache exactly if the cache holds what is listed. -/
theorem get_eq_uncached_iff (backed : self.Backed P) :
    (self.get P manifest path).1 = (self.uncached.get P manifest path).1 ↔
      ∀ clean data, normalizePath path = .ok clean → self.cache[clean]? = some data →
        ∃ file, manifest.files.find? (fun file => file.path = clean) = some file ∧
          file.objectId = contentId P data ∧ file.size = UInt64.ofNat data.length := by
  cases normal : normalizePath path with
  | error error => simp [get, normal]
  | ok clean =>
    cases cached : self.cache[clean]? with
    | none =>
      rw [get_missing normal cached]
      refine iff_of_true rfl ?_
      rintro clean data same located
      cases same
      rw [cached] at located
      cases located
    | some data =>
      have served : (self.get P manifest path).1 = .ok data := by simp [get, normal, cached]
      rw [served, eq_comm, get_uncached_ok normal]
      constructor
      · rintro ⟨file, listed, read, sized⟩ clean data same located
        cases same
        rw [cached] at located
        cases located
        exact ⟨file, listed, (LocalNodeStore.contentId_of_get read).symm, sized⟩
      · intro consistent
        obtain ⟨file, listed, named, sized⟩ := consistent clean data rfl cached
        refine ⟨file, listed, ?_, sized⟩
        -- The cached file came from the store under its own name.
        rw [named]
        exact backed clean data cached

/-- An answer is that of a host without a cache exactly if the cache holds what is listed. -/
theorem answer_eq_uncached_iff (backed : self.Backed P) (call : HostCall) :
    (self.answer P call).1 = (self.uncached.answer P call).1 ↔ self.Listed P call := by
  cases call with
  | get manifest path =>
    have exact := get_eq_uncached_iff manifest path backed
    rw [answer, answer, exact]
    exact ⟨fun consistent _ => consistent, fun listed => listed trivial⟩
  | getAuthorized manifest path map =>
    have exact := get_eq_uncached_iff manifest path backed
    rw [answer, answer, getAuthorized, getAuthorized]
    by_cases admitted : manifest.authorize P map = true
    · simp only [admitted, Bool.not_true, Bool.false_eq_true, if_false]
      rw [exact]
      exact ⟨fun consistent _ => consistent, fun listed => listed admitted⟩
    · -- Whoever is turned away gets the same error from both.
      have refused : (!manifest.authorize P map) = true := by
        simpa using admitted
      rw [if_pos refused, if_pos refused]
      exact iff_of_true rfl fun admitted' => absurd admitted' admitted

/-- A file that was read from the store may be remembered. -/
theorem Backed.remember (backed : self.Backed P)
    (read : self.store.get P (contentId P data) = .ok data) (path : String) :
    (self.remember path data).Backed P := by
  intro other found located
  rcases BTreeMap.getElem?_insert_iff.mp located with ⟨rfl, rfl⟩ | ⟨_, before⟩
  · exact read
  · -- What is dropped to make room takes nothing else along.
    refine backed other found ?_
    split at before
    · split at before
      · rw [Std.ExtTreeMap.getElem?_erase] at before
        split at before
        · cases before
        · exact before
      · exact before
    · exact before

/-- Serving a file keeps the cache backed, and the store as it is. -/
theorem Backed.get (backed : self.Backed P) (manifest : SiteManifest) (path : String) :
    (self.get P manifest path).2.Backed P ∧
      (self.get P manifest path).2.uncached = self.uncached := by
  -- Only a page that was read from the store enters the cache.
  unfold AweHost.get
  split
  · exact ⟨backed, rfl⟩
  split
  · exact ⟨backed, rfl⟩
  split
  · exact ⟨backed, rfl⟩
  split
  · exact ⟨backed, rfl⟩
  · rename_i file _ _ object read
    split
    · exact ⟨backed, rfl⟩
    · refine ⟨backed.remember ?_ _, rfl⟩
      rw [LocalNodeStore.contentId_of_get read]
      exact read

/-- So does every call. -/
theorem Backed.answer (backed : self.Backed P) (call : HostCall) :
    (self.answer P call).2.Backed P ∧ (self.answer P call).2.uncached = self.uncached := by
  cases call with
  | get manifest path => exact backed.get manifest path
  | getAuthorized manifest path map =>
    rw [AweHost.answer, getAuthorized]
    split
    · exact ⟨backed, rfl⟩
    · exact backed.get manifest path

end AweHost

/--
A host serves what a host without a cache would exactly if its cache is never asked for another file.

A call must find in the cache only what its own site lists for the path.
-/
theorem cache_transparent_iff_listed (P : Primitives) (store : LocalNodeStore) (cacheEntries : Nat)
    (calls : List HostCall) :
    (∀ entry ∈ transcript (AweHost.answer P) (.open store cacheEntries) calls,
      entry.2 = ((AweHost.open store cacheEntries).answer P entry.1).1) ↔
      EveryStep (fun host call => (host.answer P call).2) (AweHost.Listed P)
        (.open store cacheEntries) calls := by
  refine (forall_transcript_iff (fun call answer =>
    answer = ((AweHost.open store cacheEntries).answer P call).1) calls _).trans ?_
  -- The cache stays backed by the store, which does not change.
  refine everyStep_congr (fun host : AweHost =>
    host.Backed P ∧ host.uncached = .open store cacheEntries) ?_ ?_ calls ⟨?_, rfl⟩
  · rintro host call ⟨backed, same⟩
    obtain ⟨kept, unchanged⟩ := backed.answer call
    exact ⟨kept, unchanged.trans same⟩
  · rintro host call ⟨backed, same⟩
    rw [← same]
    exact AweHost.answer_eq_uncached_iff backed call
  · intro path data located
    simp [AweHost.open] at located

/-- An open site whose index page is one object. -/
def indexSite (P : Primitives) (page : Bytes) : SiteManifest :=
  ⟨contentId P page, [⟨"/index.html", contentId P page, UInt64.ofNat page.length⟩], ⟨.open, none⟩⟩

/-- The index page of one site stays in the cache for every other site. -/
theorem AweHost.index_page_stays {P : Primitives} {store : LocalNodeStore} (entries : Nat)
    {page other : Bytes} (first : store.get P (contentId P page) = .ok page)
    (second : store.get P (contentId P other) = .ok other) :
    (.get (indexSite P other) "/", .ok page) ∈ transcript (AweHost.answer P) (.open store entries)
        [.get (indexSite P page) "/", .get (indexSite P other) "/"] ∧
      ((AweHost.open store entries).answer P (.get (indexSite P other) "/")).1 = .ok other := by
  have normal : normalizePath "/" = .ok "/index.html" := by decide
  have nothing : (AweHost.open store entries).cache["/index.html"]? = none :=
    Std.ExtTreeMap.getElem?_empty
  have served {page : Bytes} (read : store.get P (contentId P page) = .ok page) :
      (AweHost.open store entries).get P (indexSite P page) "/" =
        (.ok page, (AweHost.open store entries).remember "/index.html" page) := by
    have listed : (indexSite P page).files.find? (fun file => file.path = "/index.html") =
        some ⟨"/index.html", contentId P page, UInt64.ofNat page.length⟩ := by simp [indexSite]
    exact AweHost.get_read normal nothing listed read rfl
  -- The first call leaves its page in the cache, under the path only.
  have remembered : ((AweHost.open store entries).remember "/index.html" page).cache["/index.html"]? =
      some page := Std.ExtTreeMap.getElem?_insert_self
  constructor
  · rw [transcript, transcript, AweHost.answer, served first, AweHost.answer,
      AweHost.get_cached normal remembered]
    exact List.mem_cons_of_mem _ List.mem_cons_self
  · rw [AweHost.answer, served second]

/-- Two objects that are told apart by their names. -/
def Reference.twoObjects : LocalNodeStore :=
  ⟨((∅ : HashMap Bytes32 Bytes).insert (contentId primitives [1]) [1]).insert
    (contentId primitives [2]) [2], 1000⟩

/-- The index page of one site is served for that of another. -/
theorem cached_page_is_served_for_other_site :
    ∃ calls : List HostCall, ∃ entry ∈ transcript (AweHost.answer Reference.primitives)
        (.open Reference.twoObjects 4096) calls,
      entry.2 = .ok [1] ∧
        ((AweHost.open Reference.twoObjects 4096).answer Reference.primitives entry.1).1 =
          .ok [2] := by
  -- The two sites list one object each, and their pages differ.
  have differs : contentId Reference.primitives [1] ≠ contentId Reference.primitives [2] := by
    decide
  have found : Reference.twoObjects.objects[contentId Reference.primitives [1]]? = some [1] := by
    refine BTreeMap.getElem?_insert_iff.mpr (Or.inr ⟨differs, ?_⟩)
    exact Std.ExtTreeMap.getElem?_insert_self
  have found' : Reference.twoObjects.objects[contentId Reference.primitives [2]]? = some [2] :=
    Std.ExtTreeMap.getElem?_insert_self
  have stays := AweHost.index_page_stays 4096
    (LocalNodeStore.get_of_getElem? found rfl) (LocalNodeStore.get_of_getElem? found' rfl)
  exact ⟨_, _, stays.1, rfl, stays.2⟩

end Awe
