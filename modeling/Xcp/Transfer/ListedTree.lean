import Xcp.Transfer.ReproducedTree
import Xcp.Transfer.SourceDirectory

/-!
# Reproducing what a sender lists

The list that `transfer_source` makes of a directory names every directory before what it holds. So
what has been shown of listed trees holds of every directory that is sent, as long as the walk over
it meets no link.
-/

namespace Xcp

open Outcome DirectoryTree DestinationPrepare

namespace Source

variable {fs : FileSystem} {dirPath : FilePath} {F : ℕ} {info : BasicTransferInfo F}

/-- The location of the directory itself below the destination. -/
def base (dirPath : FilePath) : List String := location (dirName dirPath)

lemma names_dirName (dirPath : FilePath) :
    (dirName dirPath).names = if dirPath.filename = "" then [] else [dirPath.filename] := by
  unfold dirName FilePath.ofName
  split_ifs with hempty <;> simp [hempty]

/-- What a preparation records, in the order of the walk. -/
lemma prepareTransferDirectory_records (h : prepareTransferDirectory fs dirPath = ok ⟨F, info⟩) :
    ∃ dir mode readable entries records, fs.canonical dirPath = .ok dir ∧
      fs.root.find dir = some (.directory mode readable entries) ∧
      fs.visited dirPath = (Node.directory mode readable entries).visited [] ∧
      List.Forall₂ (fun entry r => recordEntry fs dirPath entry = ok r) (fs.visited dirPath) records ∧
      info.dirsInfo = recordRoot dirPath mode ++ records.filterMap Recorded.directory? ∧
      (List.finRange F).map info.filesInfo = records.filterMap Recorded.file? := by
  unfold prepareTransferDirectory at h
  split at h
  · next mode readable entries hstatus =>
    obtain ⟨records, hrecords, h⟩ := bind_eq_ok.mp h
    obtain ⟨dir, hdir, hfind⟩ := FileSystem.status_eq_ok hstatus
    cases h
    refine ⟨dir, mode, readable, entries, records, hdir, hfind, ?_,
      forall₂_of_mapM_eq_ok hrecords, rfl, ?_⟩
    · rw [FileSystem.visited, hstatus]
    · exact List.map_get_finRange _
  · cases h

/-- A walk that meets no link records directories as directories and files as files. -/
lemma recordEntry_kind (hregular : Regular fs dirPath) {dir : List String} {d : Node}
    (hdir : fs.canonical dirPath = .ok dir) (hd : fs.root.find dir = some d) (hd' : d.IsDirectory)
    (hvisited : fs.visited dirPath = d.visited []) {entry : List String × Node}
    (hentry : entry ∈ fs.visited dirPath) {r : Recorded}
    (hr : recordEntry fs dirPath entry = ok r) :
    (entry.2.IsDirectory ∧ ∃ di, r = .directory di ∧ di.posixPerm &&& 0o7777 = di.posixPerm) ∨
      (¬ entry.2.IsDirectory ∧ ∃ fi, r = .file fi ∧ fi.posixPerm &&& 0o7777 = fi.posixPerm) := by
  obtain ⟨hne, hfind, -⟩ := mem_visited hd hvisited hentry
  have hcanonical := FileSystem.canonical_of_find hdir hd hd' hne hfind (hregular.1 entry hentry)
  have hnode : fs.root.find (dir ++ entry.1) = some entry.2 := by
    rw [Node.find_append, hd]
    exact hfind
  have hstatus := FileSystem.status_of_canonical hcanonical hnode
  have hmask : ∀ mode : ℕ, mode &&& 0o7777 &&& 0o7777 = mode &&& 0o7777 := fun mode => by
    rw [Nat.land_assoc, Nat.and_self]
  unfold recordEntry at hr
  simp only [hstatus] at hr
  split at hr
  · next mode readable entries heq =>
    obtain ⟨relative, -, hr⟩ := bind_eq_ok.mp hr
    cases hr
    exact .inl ⟨Except.ok.inj heq ▸ trivial, _, rfl, hmask mode⟩
  · next size mode readable heq =>
    obtain ⟨relative, -, hr⟩ := bind_eq_ok.mp hr
    obtain ⟨fi, hfi, hr⟩ := bind_eq_ok.mp hr
    cases hr
    unfold internalOpenRegularFile at hfi
    split_ifs at hfi
    cases hfi
    exact .inr ⟨Except.ok.inj heq ▸ id, _, rfl, hmask mode⟩
  all_goals cases hr

/-! ### Locations -/

lemma names_own {q : List String} (hq : ∀ n ∈ q, FilePath.Plain n) :
    (dirName dirPath / (⟨false, q⟩ : FilePath)).names = (dirName dirPath).names ++ q := by
  have hplain : (⟨false, q⟩ : FilePath).names = q := FilePath.filter_plain hq
  rw [FilePath.names_append rfl, hplain]

lemma location_own {q : List String} (hq : ∀ n ∈ q, FilePath.Plain n) :
    location (dirName dirPath / (⟨false, q⟩ : FilePath)) = base dirPath ++ q := by
  rw [location, names_own hq, List.filter_append, base, location]
  congr 1
  exact List.filter_eq_self.mpr fun n hn => by simpa using (hq n hn).2.1

lemma listedPath_own (hup : dirPath.filename ≠ "..") {q : List String}
    (hq : ∀ n ∈ q, FilePath.Plain n) (hne : q ≠ []) :
    ListedPath (dirName dirPath / (⟨false, q⟩ : FilePath)) := by
  have hnames : (dirName dirPath / (⟨false, q⟩ : FilePath)).names = _ := names_own hq
  rw [names_dirName] at hnames
  have hdots : ".." ∉ q := fun hmem => (hq _ hmem).2.2 rfl
  have hdot : "." ∉ q := fun hmem => (hq _ hmem).2.1 rfl
  refine ⟨?_, ?_, ?_, ?_⟩
  · rw [dirName_append dirPath hne]
  · rw [hnames]
    simp [hne]
  · rw [hnames]
    split_ifs
    · exact hdots
    · simpa [eq_comm] using ⟨Ne.symm hup, hdots⟩
  · rw [hnames]
    split_ifs
    · exact fun hmem => hdot (List.mem_of_mem_tail hmem)
    · exact hdot

/-- The record of the directory itself. -/
lemma mem_recordRoot {mode : ℕ} {di : BasicDirectoryInfo} (hdi : di ∈ recordRoot dirPath mode) :
    dirPath.filename ≠ "" ∧ di = ⟨dirName dirPath, mode &&& 0o7777⟩ := by
  unfold recordRoot at hdi
  split_ifs at hdi with hempty
  · cases hdi
  · exact ⟨hempty, List.mem_singleton.mp hdi⟩

lemma listedPath_root (hempty : dirPath.filename ≠ "") (hup : dirPath.filename ≠ "..") :
    ListedPath (dirName dirPath) := by
  have hnames := names_dirName dirPath
  rw [if_neg hempty] at hnames
  refine ⟨rfl, ?_, ?_, ?_⟩
  · simp [hnames]
  · rw [hnames]
    simpa using Ne.symm hup
  · simp [hnames]

lemma base_cases (dirPath : FilePath) : base dirPath = [] ∨
    dirPath.filename ≠ "" ∧ base dirPath = [dirPath.filename] := by
  rw [base, location, names_dirName]
  by_cases hempty : dirPath.filename = ""
  · simp [hempty]
  · by_cases hdot : dirPath.filename = "."
    · simp [hdot]
    · simp [hempty, hdot]

/-! ### The list -/

section Forall₂

variable {α β : Type} {R S : α → β → Prop} {l : List α} {l' : List β}

lemma exists_left (h : List.Forall₂ R l l') {b : β} (hb : b ∈ l') : ∃ a ∈ l, R a b := by
  induction h with
  | nil => cases hb
  | cons hab _ ih =>
    rcases List.mem_cons.mp hb with rfl | hb
    · exact ⟨_, List.mem_cons_self, hab⟩
    · obtain ⟨a, ha, hr⟩ := ih hb
      exact ⟨a, List.mem_cons_of_mem _ ha, hr⟩

lemma forall₂_of_mem (h : List.Forall₂ R l l') (hS : ∀ a ∈ l, ∀ b, R a b → S a b) :
    List.Forall₂ S l l' := by
  induction h with
  | nil => exact .nil
  | cons hab _ ih =>
    exact .cons (hS _ List.mem_cons_self _ hab) (ih fun a ha => hS a (List.mem_cons_of_mem _ ha))

end Forall₂

lemma mem_directories {records : List Recorded} {di : BasicDirectoryInfo} :
    di ∈ records.filterMap Recorded.directory? ↔ Recorded.directory di ∈ records := by
  have hdirectory : ∀ r : Recorded, r.directory? = some di ↔ r = .directory di := fun r => by
    cases r <;> simp [Recorded.directory?]
  simp [List.mem_filterMap, hdirectory]

lemma mem_files {records : List Recorded} {fi : BasicFileInfo} :
    fi ∈ records.filterMap Recorded.file? ↔ Recorded.file fi ∈ records := by
  have hfile : ∀ r : Recorded, r.file? = some fi ↔ r = .file fi := fun r => by
    cases r <;> simp [Recorded.file?]
  simp [List.mem_filterMap, hfile]

/-- What is recorded of an entry: its place, and what it is. -/
structure Records (dirPath : FilePath) (entry : List String × Node) (r : Recorded) : Prop where
  ne_nil : entry.1 ≠ []
  plain : ∀ n ∈ entry.1, FilePath.Plain n
  relativePath_eq : r.relativePath = dirName dirPath / ⟨false, entry.1⟩
  kind : (entry.2.IsDirectory ∧ ∃ di, r = .directory di ∧ di.posixPerm &&& 0o7777 = di.posixPerm) ∨
    (¬ entry.2.IsDirectory ∧ ∃ fi, r = .file fi ∧ fi.posixPerm &&& 0o7777 = fi.posixPerm)

namespace Records

variable {entry : List String × Node} {r : Recorded}

lemma location_eq (h : Records dirPath entry r) : location r.relativePath = base dirPath ++ entry.1 := by
  rw [h.relativePath_eq, location_own h.plain]

lemma listedPath (h : Records dirPath entry r) (hup : dirPath.filename ≠ "..") :
    ListedPath r.relativePath := by
  rw [h.relativePath_eq]
  exact listedPath_own hup h.plain h.ne_nil

lemma location_ne_nil (h : Records dirPath entry r) : location r.relativePath ≠ [] := by
  simp [h.location_eq, h.ne_nil]

lemma not_prefix_base (h : Records dirPath entry r) :
    ¬ location r.relativePath <+: base dirPath := by
  intro hpre
  have hlength := hpre.length_le
  rw [h.location_eq, List.length_append] at hlength
  exact h.ne_nil (List.length_eq_zero_iff.mp (by omega))

lemma of_directory {di : BasicDirectoryInfo} (h : Records dirPath entry (.directory di)) :
    entry.2.IsDirectory ∧ di.posixPerm &&& 0o7777 = di.posixPerm := by
  rcases h.kind with ⟨hdir, di', heq, hperm⟩ | ⟨-, fi, heq, -⟩
  · cases heq
    exact ⟨hdir, hperm⟩
  · cases heq

lemma of_file {fi : BasicFileInfo} (h : Records dirPath entry (.file fi)) :
    ¬ entry.2.IsDirectory ∧ fi.posixPerm &&& 0o7777 = fi.posixPerm := by
  rcases h.kind with ⟨-, di, heq, -⟩ | ⟨hfile, fi', heq, hperm⟩
  · cases heq
  · cases heq
    exact ⟨hfile, hperm⟩

end Records

/-- The list that is made of a directory: itself, unless it has no name, and a record for each entry
of the walk. -/
structure ListsTree (dirPath : FilePath) (info : BasicTransferInfo F) (d : Node) (mode : ℕ)
    (records : List Recorded) : Prop where
  wellFormed : d.WellFormed
  recorded : List.Forall₂ (Records dirPath) (d.visited []) records
  dirsInfo : info.dirsInfo = recordRoot dirPath mode ++ records.filterMap Recorded.directory?
  filesInfo : (List.finRange F).map info.filesInfo = records.filterMap Recorded.file?

lemma listsTree_of_regular (hregular : Regular fs dirPath)
    (h : prepareTransferDirectory fs dirPath = ok ⟨F, info⟩) :
    ∃ d mode records, ListsTree dirPath info d mode records := by
  obtain ⟨dir, mode, readable, entries, records, hdir, hd, hvisited, hall, hdirs, hfiles⟩ :=
    prepareTransferDirectory_records h
  refine ⟨_, mode, records, Node.find_wellFormed fs.wellFormed hd, ?_, hdirs, hfiles⟩
  rw [← hvisited]
  have hmem : ∀ entry ∈ fs.visited dirPath, ∀ r, recordEntry fs dirPath entry = ok r →
      Records dirPath entry r := fun entry hentry r hr => by
    obtain ⟨hne, -, hplain⟩ := mem_visited hd hvisited hentry
    exact ⟨hne, hplain, recordEntry_own hregular hdir hd trivial hvisited hentry hr,
      recordEntry_kind hregular hdir hd trivial hvisited hentry hr⟩
  exact forall₂_of_mem hall hmem

namespace ListsTree

variable {d : Node} {mode : ℕ} {records : List Recorded}

/-- Every record is one of an entry. -/
lemma exists_entry (h : ListsTree dirPath info d mode records) {r : Recorded} (hr : r ∈ records) :
    ∃ entry ∈ d.visited [], Records dirPath entry r := exists_left h.recorded hr

/-- Every entry is recorded. -/
lemma exists_record (h : ListsTree dirPath info d mode records) {entry : List String × Node}
    (hentry : entry ∈ d.visited []) : ∃ r ∈ records, Records dirPath entry r :=
  exists_left h.recorded.flip hentry

/-- What is recorded later is not on the way to what is recorded now. -/
lemma records_before (h : ListsTree dirPath info d mode records) :
    records.Pairwise fun r r' => ¬ location r'.relativePath <+: location r.relativePath := by
  have hlocations : records.map (fun r => location r.relativePath) =
      (d.visited []).map fun entry => base dirPath ++ entry.1 := by
    have hall := h.recorded.imp (S := fun entry r =>
      base dirPath ++ entry.1 = location r.relativePath) fun _ _ hr => hr.location_eq.symm
    exact (List.forall₂_eq_eq_eq ▸ List.forall₂_map_left_iff.mpr (List.forall₂_map_right_iff.mpr hall)
      : (d.visited []).map (fun entry => base dirPath ++ entry.1) = _).symm
  have hbefore : (records.map fun r => location r.relativePath).Pairwise
      fun l l' => ¬ l' <+: l := by
    rw [hlocations, List.pairwise_map]
    exact (d.visited_before h.wellFormed []).imp fun hne => by simpa using hne
  exact List.pairwise_map.mp hbefore

lemma mem_dirsInfo (h : ListsTree dirPath info d mode records) {di : BasicDirectoryInfo} :
    di ∈ info.dirsInfo ↔ di ∈ recordRoot dirPath mode ∨ Recorded.directory di ∈ records := by
  rw [h.dirsInfo, List.mem_append, mem_directories]

lemma mem_filesInfo (h : ListsTree dirPath info d mode records) (n : Fin F) :
    Recorded.file (info.filesInfo n) ∈ records := by
  rw [← mem_files, ← h.filesInfo]
  simp

/-- The record of the directory itself, if it has a place of its own below the destination. -/
def top (dirPath : FilePath) (mode : ℕ) : List BasicDirectoryInfo :=
  if base dirPath = [] then [] else [⟨dirName dirPath, mode &&& 0o7777⟩]

lemma mem_top {di : BasicDirectoryInfo} :
    di ∈ top dirPath mode ↔ base dirPath ≠ [] ∧ di = ⟨dirName dirPath, mode &&& 0o7777⟩ := by
  unfold top
  split_ifs with hbase <;> simp [hbase]

lemma directoriesBelow_eq (h : ListsTree dirPath info d mode records) :
    directoriesBelow info = top dirPath mode ++ records.filterMap Recorded.directory? := by
  rw [directoriesBelow, h.dirsInfo, List.filter_append]
  congr 1
  · unfold recordRoot top
    by_cases hempty : dirPath.filename = ""
    · have hbase : base dirPath = [] := (base_cases dirPath).resolve_right fun hne => hne.1 hempty
      simp [hempty, hbase]
    · by_cases hbase : base dirPath = []
      · have hloc : location (dirName dirPath) = [] := hbase
        simp [hempty, hbase, hloc]
      · have hloc : location (dirName dirPath) ≠ [] := hbase
        simp [hempty, hbase, hloc]
  · refine List.filter_eq_self.mpr fun di hdi => ?_
    obtain ⟨entry, -, hrecords⟩ := h.exists_entry (mem_directories.mp hdi)
    exact decide_eq_true hrecords.location_ne_nil

/-- The directories that are recorded, in their order. -/
lemma directories_before (h : ListsTree dirPath info d mode records) :
    ((directoriesBelow info).map directoryItem).Pairwise fun a b => ¬ b.1 <+: a.1 := by
  rw [h.directoriesBelow_eq, List.pairwise_map]
  refine List.pairwise_append.mpr ⟨?_, ?_, fun di hdi di' hdi' => ?_⟩
  · unfold top
    split_ifs <;> simp
  · refine List.pairwise_filterMap.mpr (h.records_before.imp fun {r r'} hne di hdi di' hdi' => ?_)
    cases r with
    | directory =>
      cases r' with
      | directory => cases hdi; cases hdi'; exact hne
      | file => cases hdi'
    | file => cases hdi
  · obtain ⟨-, rfl⟩ := mem_top.mp hdi
    obtain ⟨entry, -, hrecords⟩ := h.exists_entry (mem_directories.mp hdi')
    exact hrecords.not_prefix_base

/-- The files, in their order. -/
lemma files_before (h : ListsTree dirPath info d mode records) :
    (List.finRange F).Pairwise fun n n' => ¬ location (info.filesInfo n').relativePath <+:
      location (info.filesInfo n).relativePath := by
  have hfiles : ((List.finRange F).map info.filesInfo).Pairwise fun fi fi' =>
      ¬ location fi'.relativePath <+: location fi.relativePath := by
    rw [h.filesInfo]
    refine List.pairwise_filterMap.mpr (h.records_before.imp fun {r r'} hne fi hfi fi' hfi' => ?_)
    cases r with
    | directory => cases hfi
    | file =>
      cases r' with
      | directory => cases hfi'
      | file => cases hfi; cases hfi'; exact hne
  exact List.pairwise_map.mp hfiles

/-- Nothing that is listed is below a file. -/
lemma file_not_prefix (h : ListsTree dirPath info d mode records) (n : Fin F)
    {di : BasicDirectoryInfo} (hdi : Recorded.directory di ∈ records) :
    ¬ location (info.filesInfo n).relativePath <+: location di.relativePath := by
  obtain ⟨entry, hentry, hr⟩ := h.exists_entry (h.mem_filesInfo n)
  obtain ⟨entry', hentry', hr'⟩ := h.exists_entry hdi
  have hfile : location (info.filesInfo n).relativePath = base dirPath ++ entry.1 := hr.location_eq
  have hdir : location di.relativePath = base dirPath ++ entry'.1 := hr'.location_eq
  rw [hfile, hdir, List.prefix_append_right_inj]
  intro hpre
  obtain ⟨q, -, heq, hfind⟩ := d.mem_visited h.wellFormed hentry
  obtain ⟨q', -, heq', hfind'⟩ := d.mem_visited h.wellFormed hentry'
  rw [List.nil_append] at heq heq'
  rw [← heq] at hfind
  rw [← heq'] at hfind'
  by_cases hne : entry.1 = entry'.1
  · rw [hne] at hfind
    have hnode : entry.2 = entry'.2 := Option.some.inj (hfind.symm.trans hfind')
    exact hr.of_file.1 (hnode ▸ hr'.of_directory.1)
  · exact hr.of_file.1 (Node.isDirectory_of_find hfind hfind' hpre hne)

/-- The directory that holds an entry is listed. -/
lemma parent_listed (h : ListsTree dirPath info d mode records) {entry : List String × Node}
    (hentry : entry ∈ d.visited []) (hne : base dirPath ++ entry.1.dropLast ≠ []) :
    ∃ di ∈ directoriesBelow info, location di.relativePath = base dirPath ++ entry.1.dropLast := by
  rw [h.directoriesBelow_eq]
  rcases d.parent_visited hentry with hnil | ⟨m, hm⟩
  · rw [hnil, List.append_nil] at hne ⊢
    exact ⟨_, List.mem_append_left _ (mem_top.mpr ⟨hne, rfl⟩), rfl⟩
  · obtain ⟨r, hr, hrecords⟩ := h.exists_record hm
    obtain ⟨q, -, heq, hfind⟩ := d.mem_visited h.wellFormed hentry
    obtain ⟨q', -, heq', hfind'⟩ := d.mem_visited h.wellFormed hm
    rw [List.nil_append] at heq heq'
    rw [← heq] at hfind
    rw [← heq'] at hfind'
    have hnil : entry.1 ≠ [] := by
      obtain ⟨r', -, hr'⟩ := h.exists_record hentry
      exact hr'.ne_nil
    have hdir : m.IsDirectory := by
      refine Node.isDirectory_of_find hfind' hfind (List.dropLast_prefix _) fun hdrop => ?_
      have hlength := congrArg List.length hdrop
      have hpos := List.length_pos_iff.mpr hnil
      simp only [List.length_dropLast] at hlength
      omega
    rcases hrecords.kind with ⟨-, di, rfl, -⟩ | ⟨hnot, -⟩
    · refine ⟨di, List.mem_append_right _ (mem_directories.mpr hr), ?_⟩
      exact hrecords.location_eq
    · exact absurd hdir hnot

lemma listing (h : ListsTree dirPath info d mode records) :
    Listing (items info fun n => (info.filesInfo n).posixPerm) := by
  have hdirectories : ∀ di ∈ directoriesBelow info, di ∈ top dirPath mode ∨
      Recorded.directory di ∈ records := fun di hdi => by
    rw [h.directoriesBelow_eq] at hdi
    exact (List.mem_append.mp hdi).imp_right mem_directories.mp
  have hplace : ∀ a ∈ items info (fun n => (info.filesInfo n).posixPerm),
      a.1 = base dirPath ∧ base dirPath ≠ [] ∨
        ∃ entry ∈ d.visited [], entry.1 ≠ [] ∧ a.1 = base dirPath ++ entry.1 := by
    intro a ha
    rcases List.mem_append.mp ha with ha | ha
    · obtain ⟨di, hdi, rfl⟩ := List.mem_map.mp ha
      rcases hdirectories di hdi with htop | hr
      · obtain ⟨hne, rfl⟩ := mem_top.mp htop
        exact .inl ⟨rfl, hne⟩
      · obtain ⟨entry, hentry, hrecords⟩ := h.exists_entry hr
        exact .inr ⟨entry, hentry, hrecords.ne_nil, hrecords.location_eq⟩
    · obtain ⟨n, -, rfl⟩ := List.mem_map.mp ha
      obtain ⟨entry, hentry, hrecords⟩ := h.exists_entry (h.mem_filesInfo n)
      exact .inr ⟨entry, hentry, hrecords.ne_nil, hrecords.location_eq⟩
  refine ⟨fun a ha => ?_, ?_, fun a ha hne => ?_⟩
  · rcases hplace a ha with ⟨heq, hne⟩ | ⟨entry, -, hne, heq⟩
    · rwa [heq]
    · simp [heq, hne]
  · refine List.pairwise_append.mpr ⟨h.directories_before, ?_, fun a ha b hb => ?_⟩
    · exact List.pairwise_map.mpr h.files_before
    · obtain ⟨di, hdi, rfl⟩ := List.mem_map.mp ha
      obtain ⟨n, -, rfl⟩ := List.mem_map.mp hb
      rcases hdirectories di hdi with htop | hr
      · obtain ⟨-, rfl⟩ := mem_top.mp htop
        obtain ⟨entry, -, hrecords⟩ := h.exists_entry (h.mem_filesInfo n)
        exact hrecords.not_prefix_base
      · exact h.file_not_prefix n hr
  · rcases hplace a ha with ⟨heq, hbase⟩ | ⟨entry, hentry, hnil, heq⟩
    · obtain ⟨-, hsingle⟩ := (base_cases dirPath).resolve_left hbase
      rw [heq, hsingle] at hne
      exact absurd rfl hne
    · rw [heq, List.dropLast_append_of_ne_nil hnil] at hne ⊢
      obtain ⟨di, hdi, hloc⟩ := h.parent_listed hentry hne
      refine ⟨di.posixPerm, List.mem_append_left _ (List.mem_map.mpr ⟨di, hdi, ?_⟩)⟩
      rw [directoryItem, hloc]

end ListsTree

/-- The list of a directory that is sent without meeting a link is one of a tree. -/
lemma listed_of_regular (hregular : Regular fs dirPath)
    (h : prepareTransferDirectory fs dirPath = ok ⟨F, info⟩) : Listed info := by
  obtain ⟨d, mode, records, hlists⟩ := listsTree_of_regular hregular h
  have hroot : ∀ di ∈ recordRoot dirPath mode, ListedPath di.relativePath ∧
      di.posixPerm &&& 0o7777 = di.posixPerm := fun di hdi => by
    obtain ⟨hempty, rfl⟩ := mem_recordRoot hdi
    exact ⟨listedPath_root hempty hregular.2, by rw [Nat.land_assoc, Nat.and_self]⟩
  refine ⟨fun di hdi => ?_, fun n => ?_, fun di hdi => ?_, fun n => ?_, fun di hdi => ?_,
    hlists.listing⟩
  · rcases hlists.mem_dirsInfo.mp hdi with hdi | hr
    · exact (hroot di hdi).1
    · obtain ⟨entry, -, hrecords⟩ := hlists.exists_entry hr
      exact hrecords.listedPath hregular.2
  · obtain ⟨entry, -, hrecords⟩ := hlists.exists_entry (hlists.mem_filesInfo n)
    exact hrecords.listedPath hregular.2
  · rcases hlists.mem_dirsInfo.mp hdi with hdi | hr
    · exact (hroot di hdi).2
    · obtain ⟨entry, -, hrecords⟩ := hlists.exists_entry hr
      exact hrecords.of_directory.2
  · obtain ⟨entry, -, hrecords⟩ := hlists.exists_entry (hlists.mem_filesInfo n)
    exact not_not.mpr hrecords.of_file.2
  · have hmem : di ∈ records.filterMap Recorded.directory? := by
      rw [hlists.dirsInfo, recordRoot] at hdi
      split_ifs at hdi
      · exact List.mem_of_mem_tail hdi
      · exact hdi
    obtain ⟨entry, -, hrecords⟩ := hlists.exists_entry (mem_directories.mp hmem)
    exact hrecords.location_ne_nil

end Source

end Xcp
