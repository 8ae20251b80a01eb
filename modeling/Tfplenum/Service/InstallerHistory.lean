/-
  Tfplenum.Service.InstallerHistory

  The installers of `AgentBuilder` do not depend on the builds before, although all
  builds render into the same folders.

  The files that builds write are in the folders of the packages, beside the templates
  they are rendered from (`written`); all other files are as shipped (`Kept`).  A build
  from such a disk goes as it does on the shipped one (`Lockstep`): the written files may
  differ between the two runs (`Beside`) up to the moment in which the build has written
  them, and a folder is copied only after that.
-/

import Tfplenum.Service.AgentBuilder

namespace Tfplenum.AgentBuilder

open Lib FileTree

/-! ## What builds write -/

/-- The templates of a package. -/
def templates (d₀ : Disk) (folder : String) : List String :=
  if d₀.get? ("templates" :: folder :: agentPkgsDir) = some .directory then
    d₀.glob ("templates" :: folder :: agentPkgsDir)
  else []

def certificateFiles : List String := ["ca.crt", "tls.crt", "tls.key"]

/-- The files that builds write in a folder. -/
def Output (env : BuildEnv) (d₀ : Disk) (folder name : String) : Prop :=
  if folder = "endgame" then isZip name = true ∨ name = "install.ps1" ∨ name = "uninstall.ps1"
  else
    name ∈ templates d₀ folder ∨
      (d₀.get? ("kubernetes" :: folder :: agentPkgsDir) = some .directory ∧
        name ∈ certificateFiles) ∨
      name ∈ (env.offlineZips folder).map Prod.fst

def written (env : BuildEnv) (d₀ : Disk) : Set Place :=
  {p | ∃ folder name, p = name :: folder :: agentPkgsDir ∧ Output env d₀ folder name}

/-- The packages lie in folders of their own, with nothing in the way of what is rendered. -/
structure Shipped (env : BuildEnv) (d₀ : Disk) : Prop where
  endgame : d₀.get? endgameDir = some .directory
  folder : ∀ folder text, (folder, text) ∈ d₀.appconfigs →
    IsProper folder ∧ folder ≠ "endgame" ∧ d₀.get? (folder :: agentPkgsDir) = some .directory
  free : ∀ folder name, Output env d₀ folder name →
    name ∉ ["templates", "kubernetes", "appconfig.json"] ∧
      d₀.get? (name :: folder :: agentPkgsDir) ≠ some .directory

/-- A request as the form makes it: a text of its own is in the place of a template, and the
    installer of Endgame is a zip file. -/
structure Usual (env : BuildEnv) (d₀ : Disk) (request : BuildRequest) : Prop where
  located : ∀ folder text, (folder, text) ∈ d₀.appconfigs → ∀ content configLocation,
    ownContent env request.installerConfig folder = some (content, configLocation) →
      ∃ name ∈ templates d₀ folder,
        pathParts (folder ++ "/" ++ configLocation) = [folder, "templates", name]
  zipped : ∀ login package, request.endgameServer login = .ok package →
    ∃ name, isZip name = true ∧ joinedPath endgameDir package.filename = name :: endgameDir

/-- A package for which the configuration has a text of its own has no other templates. -/
def RendersAll (env : BuildEnv) (d₀ : Disk) (config : InstallerConfig) : Prop :=
  ∀ folder text, (folder, text) ∈ d₀.appconfigs → (ownContent env config folder).isSome →
    ∀ name ∈ templates d₀ folder, ∀ name' ∈ templates d₀ folder, name = name'

/-! ## Disks that builds have written to -/

/-- Only written files differ from the shipped ones. -/
structure Kept (env : BuildEnv) (d₀ d : Disk) : Prop where
  agree : Table.AgreeOff (written env d₀) d₀ d
  files : ∀ p ∈ written env d₀, d.get? p ≠ some .directory

section

variable {env : BuildEnv} {d₀ d : Disk}

theorem length_of_mem_written {p : Place} (h : p ∈ written env d₀) : p.length = 5 := by
  obtain ⟨folder, name, rfl, -⟩ := h
  rfl

theorem notMem_written {p : Place} (h : p.length ≠ 5) : p ∉ written env d₀ :=
  fun hp => h (length_of_mem_written hp)

theorem mem_written_iff {folder name : String} :
    name :: folder :: agentPkgsDir ∈ written env d₀ ↔ Output env d₀ folder name := by
  constructor
  · rintro ⟨folder', name', heq, h⟩
    cases heq
    exact h
  · exact fun h => ⟨folder, name, rfl, h⟩

theorem Shipped.reserved (h : Shipped env d₀) {folder name : String}
    (hname : name ∈ ["templates", "kubernetes", "appconfig.json"]) :
    name :: folder :: agentPkgsDir ∉ written env d₀ :=
  fun hp => (h.free folder name (mem_written_iff.mp hp)).1 hname

theorem Shipped.kept (h : Shipped env d₀) : Kept env d₀ d₀ where
  agree := .refl ..
  files := by
    rintro p ⟨folder, name, rfl, hname⟩
    exact (h.free folder name hname).2

theorem Kept.get? (h : Kept env d₀ d) {p : Place} (hp : p ∉ written env d₀) :
    d.get? p = d₀.get? p :=
  (h.agree.get? hp).symm

theorem Kept.glob (h : Kept env d₀ d) {dir : Place}
    (hdir : ∀ name, name :: dir ∉ written env d₀) : d.glob dir = d₀.glob dir := by
  refine (h.agree.filterMap ?_).symm
  rintro ⟨p, e⟩ hp
  cases p with
  | nil => rfl
  | cons name parent =>
      refine if_neg ?_
      rintro rfl
      exact hdir name hp

theorem Kept.appconfigs (hs : Shipped env d₀) (h : Kept env d₀ d) :
    d.appconfigs = d₀.appconfigs := by
  refine (h.agree.filterMap ?_).symm
  rintro ⟨_, e⟩ ⟨folder, name, rfl, hname⟩
  cases e with
  | directory => rfl
  | file text =>
      have hne : name ≠ "appconfig.json" := by
        rintro rfl
        exact (hs.free _ _ hname).1 (by simp)
      exact if_neg fun h => hne h.1

theorem Kept.upsert (h : Kept env d₀ d) {p : Place} (hp : p ∈ written env d₀) (text : String) :
    Kept env d₀ (d.upsert p (.file text)) where
  agree := h.agree.upsert hp _
  files q hq := by
    rw [Table.get?_upsert]
    split
    · simp
    · exact h.files q hq

theorem Kept.erase (h : Kept env d₀ d) {p : Place} (hp : p ∈ written env d₀) :
    Kept env d₀ (d.erase p) where
  agree := h.agree.remove fun k _ hk => by
    rw [decide_eq_true_iff] at hk
    exact hk ▸ hp
  files q hq := by
    rw [Table.get?_erase]
    split
    · simp
    · exact h.files q hq

theorem mem_glob {dir : Place} {name : String} (h : (d.get? (name :: dir)).isSome = true) :
    name ∈ d.glob dir := by
  obtain ⟨e, he⟩ := Option.isSome_iff_exists.mp h
  exact List.mem_filterMap.mpr ⟨_, Table.get?_eq_some_iff.mp he, if_pos rfl⟩

/-- The old installers of Endgame are removed without an error. -/
theorem unlinkEach_spec {dir : Place} {names : List String}
    (hnames : ∀ name ∈ names, name :: dir ∈ written env d₀) (h : Kept env d₀ d) :
    (Disk.unlinkEach dir names d).1 = .ok () ∧ Kept env d₀ (Disk.unlinkEach dir names d).2 ∧
      ∀ p, (Disk.unlinkEach dir names d).2.get? p =
        if ∃ name ∈ names, p = name :: dir then none else d.get? p := by
  induction names generalizing d with
  | nil => exact ⟨rfl, h, fun p => by simp [Disk.unlinkEach]⟩
  | cons name names ih =>
      rw [List.forall_mem_cons] at hnames
      rw [Disk.unlinkEach, if_neg (h.files _ hnames.1)]
      obtain ⟨hok, hkept, hget⟩ := ih hnames.2 (h.erase hnames.1)
      refine ⟨hok, hkept, fun p => ?_⟩
      rw [hget, Table.get?_erase]
      by_cases hp : p = name :: dir <;> simp [hp]

end

/-! ## Two runs -/

/-- Two disks that builds have written to, which are the same but for the stale files. -/
structure Beside (env : BuildEnv) (d₀ : Disk) (stale : Set Place) (w w' : World) : Prop where
  left : Kept env d₀ w.disk
  right : Kept env d₀ w'.disk
  same : ∀ p ∉ stale, w.disk.get? p = w'.disk.get? p

/-- The two builds have also copied the same. -/
structure Together (env : BuildEnv) (d₀ : Disk) (stale : Set Place) (w w' : World) : Prop extends
    Beside env d₀ stale w w' where
  agentPath : w.agentPath = w'.agentPath

section

variable {env : BuildEnv} {d₀ : Disk} {stale stale' : Set Place} {w w' : World}

theorem Beside.mono (h : Beside env d₀ stale w w') (hle : stale ⊆ stale') :
    Beside env d₀ stale' w w' :=
  ⟨h.left, h.right, fun p hp => h.same p fun hmem => hp (hle hmem)⟩

theorem Together.mono (h : Together env d₀ stale w w') (hle : stale ⊆ stale') :
    Together env d₀ stale' w w' :=
  ⟨h.toBeside.mono hle, h.agentPath⟩

/-- Two runs of a part of a build that begin and end with some stale files. -/
abbrev Renews {α : Type} (env : BuildEnv) (d₀ : Disk) (stale : Set Place) (p : BuildProg α)
    (φ : α → Prop) (stale' : Set Place) : Prop :=
  Lockstep applyBuildOp (Together env d₀ stale) p
    (fun a w w' => φ a ∧ Together env d₀ stale' w w') (Beside env d₀ (written env d₀))

/-! ### Operations -/

variable (hstale : stale ⊆ written env d₀)

/-- What is read outside the written files is what was shipped. -/
theorem renews_stat {p : Place} (hp : p ∉ written env d₀) :
    Renews env d₀ stale (Program.perform (BuildOp.stat p)) (· = d₀.get? p) stale := by
  refine .perform (fun w w' hw => ?_) fun w w' hw => ⟨hw.left.get? hp, hw⟩
  exact (hw.left.get? hp).trans (hw.right.get? hp).symm

theorem renews_glob {dir : Place} (hdir : ∀ name, name :: dir ∉ written env d₀) :
    Renews env d₀ stale (Program.perform (BuildOp.glob dir)) (· = d₀.glob dir) stale := by
  refine .perform (fun w w' hw => ?_) fun w w' hw => ⟨hw.left.glob hdir, hw⟩
  exact (hw.left.glob hdir).trans (hw.right.glob hdir).symm

/-- A file that is written is not stale any more. -/
theorem renews_write {p : Place} (hp : p ∈ written env d₀) (text : String) :
    Renews env d₀ stale (write p text) (fun _ => True) (stale \ {p}) := by
  have hwrite {d : Disk} (h : Kept env d₀ d) : d.write p text = (.ok (), d.upsert p (.file text)) :=
    if_neg (h.files p hp)
  have hstep : Renews env d₀ stale (Program.perform (BuildOp.write p text)) (· = .ok ())
      (stale \ {p}) := by
    refine .perform (fun w w' hw => ?_) fun w w' hw => ?_
    · change (w.disk.write p text).1 = (w'.disk.write p text).1
      rw [hwrite hw.left, hwrite hw.right]
    · change (w.disk.write p text).1 = .ok () ∧ _
      dsimp only [applyBuildOp]
      rw [hwrite hw.left, hwrite hw.right]
      refine ⟨rfl, ⟨hw.left.upsert hp text, hw.right.upsert hp text, fun q hq => ?_⟩, hw.agentPath⟩
      rw [Table.get?_upsert, Table.get?_upsert]
      split
      · rfl
      · rename_i hne
        exact hw.same q fun hmem => hq ⟨hmem, hne⟩
  refine hstep.bind fun r => .assume ?_
  rintro rfl
  exact .done fun w w' hw => ⟨trivial, hw⟩

include hstale

theorem renews_raise {α : Type} {φ : α → Prop} (e : PyError) :
    Renews env d₀ stale (Program.raise e) φ stale' :=
  .raise fun _ _ hw => hw.toBeside.mono hstale

theorem renews_ofExcept {α : Type} (r : Except PyError α) :
    Renews env d₀ stale (Program.ofExcept r) (r = .ok ·) stale :=
  .ofExcept (fun _ hr _ _ hw => ⟨hr, hw⟩) fun _ _ hw => hw.toBeside.mono hstale

omit hstale in
/-- Below a folder there is nothing stale if none of the files is that builds write in it. -/
theorem notMem_of_output (hstale : stale ⊆ written env d₀) {folder : String}
    (hfresh : ∀ name, Output env d₀ folder name → name :: folder :: agentPkgsDir ∉ stale)
    (q : Place) : q ++ folder :: agentPkgsDir ∉ stale := by
  intro hq
  obtain ⟨folder', name, heq, hout⟩ := hstale hq
  have hsplit : q ++ folder :: agentPkgsDir = [name] ++ folder' :: agentPkgsDir := heq
  obtain ⟨rfl, hfolder⟩ := List.append_inj' hsplit rfl
  cases hfolder
  exact hfresh name hout hq

/-- A folder is the same in both runs if no file that builds write in it is stale. -/
theorem renews_copyPackage {folder : String}
    (hfresh : ∀ name, Output env d₀ folder name → name :: folder :: agentPkgsDir ∉ stale) :
    Renews env d₀ stale (copyPackage folder) (fun _ => True) stale := by
  have hbelow := notMem_of_output hstale hfresh
  have hcopy (w w' : World) (hw : Together env d₀ stale w w') :
      (w.copytree agentPkgsDir folder).1 = (w'.copytree agentPkgsDir folder).1 ∧
        Together env d₀ stale (w.copytree agentPkgsDir folder).2
          (w'.copytree agentPkgsDir folder).2 := by
    have htree : w.disk.tree.below (folder :: agentPkgsDir) =
        w'.disk.tree.below (folder :: agentPkgsDir) := by
      apply eq_of_entry
      intro q
      unfold below
      dsimp only
      split
      · rfl
      · exact hw.same _ (hbelow q)
    have hfolder : w.disk.get? (folder :: agentPkgsDir) = w'.disk.get? (folder :: agentPkgsDir) :=
      hw.same _ (hbelow [])
    rw [World.copytree, World.copytree, ← hfolder, ← hw.agentPath, ← htree]
    split
    · exact ⟨rfl, hw⟩
    · exact ⟨rfl, hw⟩
    · split
      · exact ⟨rfl, hw⟩
      · exact ⟨rfl, ⟨hw.left, hw.right, hw.same⟩, rfl⟩
  have hstep : Renews env d₀ stale (Program.perform (BuildOp.copytree agentPkgsDir folder))
      (fun _ => True) stale :=
    .perform (fun w w' hw => (hcopy w w' hw).1) fun w w' hw => ⟨trivial, (hcopy w w' hw).2⟩
  refine hstep.bind fun r => .assume fun _ => ?_
  exact (renews_ofExcept hstale r).post fun _ _ _ hw => ⟨trivial, hw.2⟩

/-! ### Templates -/

/-- A template is read where it was shipped and written beside its directory. -/
theorem renews_createConfig {name : String} {dir : Place} (ctx : TemplateContext)
    (hname : name :: dir ∉ written env d₀) (hout : name :: dir.tail ∈ written env d₀) :
    Renews env d₀ stale (createConfig env name dir ctx) (fun _ => True)
      (stale \ {name :: dir.tail}) := by
  refine (renews_stat hname).bind fun entry => .assume fun _ => ?_
  split
  · refine (renews_ofExcept hstale _).bind fun out => .assume fun _ => ?_
    exact renews_write hout out
  · exact renews_raise hstale _

omit hstale in
/-- What a path into the templates of a package leads to. -/
theorem Kept.walk {d : Disk} (h : Kept env d₀ d) (hs : Shipped env d₀) {folder : String}
    (hproper : IsProper folder) (hdir : d₀.get? (folder :: agentPkgsDir) = some .directory)
    (hdirs : d₀.get? ("templates" :: folder :: agentPkgsDir) = some .directory)
    {rest : List String} (hrest : rest = [] ∨ rest = [".."]) :
    d.tree.walk agentPkgsDir (folder :: "templates" :: rest) =
      if nameMax < folder.utf8ByteSize then .error .nameTooLong
      else .ok (if rest = [] then "templates" :: folder :: agentPkgsDir
        else folder :: agentPkgsDir) := by
  have hentry : d.tree.entry (folder :: agentPkgsDir) = some .directory :=
    (h.get? (notMem_written (by simp [agentPkgsDir]))).trans hdir
  have hentries : d.tree.entry ("templates" :: folder :: agentPkgsDir) = some .directory :=
    (h.get? (hs.reserved (by simp))).trans hdirs
  have htemplates : IsProper "templates" := ⟨by decide, by decide, by decide, by decide⟩
  rw [walk_cons_of_isProper _ _ hproper, hentry]
  dsimp only
  rw [walk_cons_of_isProper _ _ htemplates, hentries]
  rcases hrest with rfl | rfl
  · rfl
  · rfl

omit hstale in
theorem renews_walk (hs : Shipped env d₀) {folder : String} (hproper : IsProper folder)
    (hdir : d₀.get? (folder :: agentPkgsDir) = some .directory)
    (hdirs : d₀.get? ("templates" :: folder :: agentPkgsDir) = some .directory)
    {rest : List String} (hrest : rest = [] ∨ rest = [".."]) :
    Renews env d₀ stale (Program.perform (BuildOp.walk (folder :: "templates" :: rest)))
      (fun r => ∀ dir, r = .ok dir → dir = if rest = [] then "templates" :: folder :: agentPkgsDir
        else folder :: agentPkgsDir) stale := by
  refine .perform (fun w w' hw => ?_) fun w w' hw => ⟨fun dir hok => ?_, hw⟩
  · exact (hw.left.walk hs hproper hdir hdirs hrest).trans
      (hw.right.walk hs hproper hdir hdirs hrest).symm
  · change w.disk.tree.walk agentPkgsDir (folder :: "templates" :: rest) = .ok dir at hok
    rw [hw.left.walk hs hproper hdir hdirs hrest] at hok
    split at hok
    · cases hok
    · exact (Except.ok.inj hok).symm

/-- The path of a text in the place of a template is found, if at all, in both runs. -/
theorem renews_pathExists (hs : Shipped env d₀) {folder name : String} (hproper : IsProper folder)
    (hdir : d₀.get? (folder :: agentPkgsDir) = some .directory)
    (hdirs : d₀.get? ("templates" :: folder :: agentPkgsDir) = some .directory) :
    Renews env d₀ stale (pathExists [folder, "templates"] name) (fun _ => True) stale := by
  refine (renews_walk hs hproper hdir hdirs (.inl rfl)).bind fun r => .assume fun hr => ?_
  split
  · rename_i dir
    cases hr dir rfl
    split
    · exact .done fun _ _ hw => ⟨trivial, hw⟩
    · split
      · exact renews_raise hstale _
      · refine (renews_stat (notMem_written (by simp [agentPkgsDir]))).bind fun entry => ?_
        exact .assume fun _ => .done fun _ _ hw => ⟨trivial, hw⟩
  · exact renews_raise hstale _
  · exact .done fun _ _ hw => ⟨trivial, hw⟩

/-- A text of the configuration is written beside the templates. -/
theorem renews_createConfigFromMongo (hs : Shipped env d₀) {folder name : String}
    (hproper : IsProper folder) (hne : folder ≠ "endgame")
    (hdir : d₀.get? (folder :: agentPkgsDir) = some .directory)
    (hname : name ∈ templates d₀ folder) {config : InstallerConfig} {content loc : String}
    (hown : ownContent env config folder = some (content, loc))
    (hparts : pathParts (folder ++ "/" ++ loc) = [folder, "templates", name])
    (ctx : TemplateContext) :
    Renews env d₀ stale (createConfigFromMongo env config folder ctx) (· = true)
      (stale \ {name :: folder :: agentPkgsDir}) := by
  have hdirs : d₀.get? ("templates" :: folder :: agentPkgsDir) = some .directory := by
    by_contra hno
    rw [templates, if_neg hno] at hname
    cases hname
  have hout : name :: folder :: agentPkgsDir ∈ written env d₀ := by
    rw [mem_written_iff, Output, if_neg hne]
    exact .inl hname
  rw [createConfigFromMongo, hown]
  dsimp only
  rw [hparts]
  refine (renews_pathExists hstale hs hproper hdir hdirs).bind fun found => .assume fun _ => ?_
  split
  · refine (renews_ofExcept hstale _).bind fun out => .assume fun _ => ?_
    refine (renews_walk hs hproper hdir hdirs (.inr rfl)).bind fun r => .assume fun hr => ?_
    split
    · exact renews_raise hstale _
    · rename_i dir
      cases hr dir rfl
      split
      · exact renews_raise hstale _
      · refine (renews_write hout out).bind fun _ => .assume fun _ => ?_
        exact .done fun _ _ hw => ⟨rfl, hw⟩
  · exact renews_raise hstale _

/-! ### Packages -/

omit hstale

/-- Files of a folder. -/
def inFolder (folder : String) (names : List String) : Set Place :=
  {p | ∃ name ∈ names, p = name :: folder :: agentPkgsDir}

/-- A loop whose bodies write one file of the folder each. -/
theorem renews_forEach {α : Type} (folder : String) {as : List α} {body : α → BuildProg Unit}
    (target : α → String) (hstale : stale ⊆ written env d₀)
    (hbody : ∀ a ∈ as, ∀ stale ⊆ written env d₀, Renews env d₀ stale (body a) (fun _ => True)
      (stale \ {target a :: folder :: agentPkgsDir})) :
    Renews env d₀ stale (Program.forEach as body) (fun _ => True)
      (stale \ inFolder folder (as.map target)) := by
  refine Lockstep.conseq (Lockstep.forEach
    (D := fun front : List α => Together env d₀ (stale \ inFolder folder (front.map target)))
    (E := Beside env d₀ (written env d₀)) fun front a back has => ?_)
    (fun _ _ hw => hw.mono fun p hp => ⟨hp, ?_⟩) (fun _ _ _ hw => ⟨trivial, hw⟩) fun _ _ hw => hw
  · have ha : a ∈ as := by rw [has]; simp
    refine (hbody a ha _ fun p hp => hstale hp.1).post fun _ _ _ hw => hw.2.mono ?_
    -- the file of this body is fresh, as are those of the bodies before
    rintro p ⟨⟨hp, hfront⟩, hlast⟩
    refine ⟨hp, ?_⟩
    rintro ⟨name, hname, rfl⟩
    rw [List.map_append, List.mem_append] at hname
    rcases hname with hname | hname
    · exact hfront ⟨name, hname, rfl⟩
    · rw [List.map_singleton, List.mem_singleton] at hname
      subst hname
      exact hlast rfl
  · rintro ⟨name, hname, -⟩
    cases hname

/-- The templates of a package are rendered, or a text in the place of one. -/
theorem renews_processTemplatesDir (hs : Shipped env d₀) (hstale : stale ⊆ written env d₀)
    {request : BuildRequest} (hu : Usual env d₀ request) {folder text : String}
    (happ : (folder, text) ∈ d₀.appconfigs)
    (hone : (ownContent env request.installerConfig folder).isSome →
      ∀ name ∈ templates d₀ folder, name :: folder :: agentPkgsDir ∈ stale →
        ∀ name' ∈ templates d₀ folder, name = name') (ctx : TemplateContext) :
    Renews env d₀ stale (processTemplatesDir env request.installerConfig folder
        ("templates" :: folder :: agentPkgsDir) ctx) (fun _ => True)
      (stale \ inFolder folder (templates d₀ folder)) := by
  obtain ⟨hproper, hne, hdir⟩ := hs.folder folder text happ
  refine (renews_stat (hs.reserved (by simp))).bind fun entry => .assume ?_
  rintro rfl
  split
  · rename_i hdirs
    have htemplates : templates d₀ folder = d₀.glob ("templates" :: folder :: agentPkgsDir) :=
      if_pos hdirs
    have hlong (name : String) : name :: "templates" :: folder :: agentPkgsDir ∉ written env d₀ :=
      notMem_written (by simp [agentPkgsDir])
    refine (renews_glob hlong).bind fun names => .assume ?_
    rintro rfl
    rw [← htemplates]
    cases hown : ownContent env request.installerConfig folder with
    | none =>
        refine (renews_forEach folder id hstale ?_).post fun _ _ _ hw => by rwa [List.map_id] at hw
        intro name hname stale' hstale'
        rw [createConfigFromMongo, hown]
        refine renews_createConfig hstale' ctx (hlong name) ?_
        rw [List.tail_cons, mem_written_iff, Output, if_neg hne]
        exact .inl hname
    | some own =>
        obtain ⟨content, loc⟩ := own
        obtain ⟨name, hname, hparts⟩ := hu.located folder text happ content loc hown
        refine (renews_forEach folder (fun _ => name) hstale ?_).post ?_
        · intro _ _ stale' hstale'
          refine (renews_createConfigFromMongo hstale' hs hproper hne hdir hname hown hparts
            ctx).bind fun rendered => .assume ?_
          rintro rfl
          exact .done fun _ _ hw => ⟨trivial, hw⟩
        · rintro _ _ _ ⟨-, hw⟩
          refine ⟨trivial, hw.mono ?_⟩
          -- a stale file of the folder is the one that the text is written to
          rintro p ⟨hp, hfresh⟩
          refine ⟨hp, ?_⟩
          rintro ⟨name', hname', rfl⟩
          have heq := hone (by rw [hown]; rfl) name' hname' hp name hname
          exact hfresh ⟨name', by rw [heq]; exact List.mem_map_of_mem hname, rfl⟩
  · rename_i hdirs
    have hnone : templates d₀ folder = [] := if_neg hdirs
    refine .done fun _ _ hw => ⟨trivial, hw.mono fun p hp => ⟨hp, ?_⟩⟩
    rw [hnone]
    rintro ⟨name, hname, -⟩
    cases hname

/-- The certificates of the cluster are written, or the build ends. -/
theorem renews_processKubernetesDir (hs : Shipped env d₀) (hstale : stale ⊆ written env d₀)
    (request : BuildRequest) {folder text : String} (happ : (folder, text) ∈ d₀.appconfigs) :
    Renews env d₀ stale (processKubernetesDir request ("kubernetes" :: folder :: agentPkgsDir)
        folder (folder :: agentPkgsDir)) (fun _ => True)
      (stale \ {p | d₀.get? ("kubernetes" :: folder :: agentPkgsDir) = some .directory ∧
        p ∈ inFolder folder certificateFiles}) := by
  obtain ⟨-, hne, hdir⟩ := hs.folder folder text happ
  refine (renews_stat (hs.reserved (by simp))).bind fun entry => .assume ?_
  rintro rfl
  split
  · rename_i hkubernetes
    have hout (name : String) (hname : name ∈ certificateFiles) :
        name :: folder :: agentPkgsDir ∈ written env d₀ := by
      rw [mem_written_iff, Output, if_neg hne]
      exact .inr (.inl ⟨hkubernetes, hname⟩)
    refine (renews_ofExcept hstale _).bind fun secret => .assume fun _ => ?_
    cases secret with
    | none => exact renews_raise hstale _
    | some secret =>
        refine (renews_stat (notMem_written (by simp [agentPkgsDir]))).bind fun entry => .assume ?_
        rintro rfl
        rw [if_pos hdir]
        refine (renews_write (hout "ca.crt" (by decide)) _).bind fun _ => .assume fun _ => ?_
        refine (renews_write (hout "tls.crt" (by decide)) _).bind fun _ => .assume fun _ => ?_
        refine (renews_write (hout "tls.key" (by decide)) _).post fun _ _ _ hw => ?_
        refine ⟨trivial, hw.2.mono ?_⟩
        rintro p ⟨⟨⟨hp, hca⟩, hcrt⟩, hkey⟩
        refine ⟨hp, ?_⟩
        rintro ⟨-, name, hname, rfl⟩
        simp only [certificateFiles, List.mem_cons, List.not_mem_nil, or_false] at hname
        rcases hname with rfl | rfl | rfl
        · exact hca rfl
        · exact hcrt rfl
        · exact hkey rfl
  · rename_i hkubernetes
    exact .done fun _ _ hw => ⟨trivial, hw.mono fun p hp => ⟨hp, fun hno => hkubernetes hno.1⟩⟩

theorem renews_copyZipPackages (hs : Shipped env d₀) (hstale : stale ⊆ written env d₀)
    {folder text : String} (happ : (folder, text) ∈ d₀.appconfigs) :
    Renews env d₀ stale (copyZipPackagesFromOfflinerepo env folder) (fun _ => True)
      (stale \ inFolder folder ((env.offlineZips folder).map Prod.fst)) := by
  obtain ⟨-, hne, hdir⟩ := hs.folder folder text happ
  refine renews_forEach folder Prod.fst hstale ?_
  rintro ⟨fname, content⟩ hmem stale' hstale'
  refine (renews_stat (notMem_written (by simp [agentPkgsDir]))).bind fun entry => .assume ?_
  rintro rfl
  rw [if_pos hdir]
  refine renews_write ?_ content
  rw [mem_written_iff, Output, if_neg hne]
  exact .inr (.inr (List.mem_map_of_mem hmem))

/-- When a package is copied, all files that builds write in its folder are from this one. -/
theorem renews_packageGeneric (hs : Shipped env d₀) (hstale : stale ⊆ written env d₀)
    {request : BuildRequest} (hu : Usual env d₀ request) {folder text : String}
    (happ : (folder, text) ∈ d₀.appconfigs)
    (hone : (ownContent env request.installerConfig folder).isSome →
      ∀ name ∈ templates d₀ folder, name :: folder :: agentPkgsDir ∈ stale →
        ∀ name' ∈ templates d₀ folder, name = name') (ctx : TemplateContext) :
    Renews env d₀ stale (packageGeneric env request folder ctx) (fun _ => True) stale := by
  obtain ⟨-, hne, -⟩ := hs.folder folder text happ
  refine (renews_processTemplatesDir hs hstale hu happ hone ctx).bind fun _ => .assume fun _ => ?_
  refine (renews_processKubernetesDir hs (fun p hp => hstale hp.1) request happ).bind
    fun _ => .assume fun _ => ?_
  refine (renews_copyZipPackages hs (fun p hp => hstale hp.1.1) happ).bind
    fun _ => .assume fun _ => ?_
  refine (renews_copyPackage (fun p hp => hstale hp.1.1.1) fun name hout => ?_).post
    fun _ _ _ hw => ⟨trivial, hw.2.mono fun p hp => hp.1.1.1⟩
  rintro ⟨⟨⟨-, htemplate⟩, hcertificate⟩, hzip⟩
  rw [Output, if_neg hne] at hout
  rcases hout with hname | ⟨hdir, hname⟩ | hname
  · exact htemplate ⟨name, hname, rfl⟩
  · exact hcertificate ⟨hdir, name, hname, rfl⟩
  · exact hzip ⟨name, hname, rfl⟩

theorem exists_appconfig_of_getPackages {appconfigs : List (String × String)}
    {read packages : Table (Option String) String}
    (h : getPackages env appconfigs read = .ok packages) {name : Option String} {folder : String}
    (hget : packages.get? name = some folder) :
    read.get? name = some folder ∨ ∃ text, (folder, text) ∈ appconfigs := by
  induction appconfigs generalizing read with
  | nil =>
      cases h
      exact .inl hget
  | cons appconfig appconfigs ih =>
      obtain ⟨folder', text⟩ := appconfig
      obtain ⟨packageName, -, h⟩ := exists_of_bind_eq_ok h
      rcases ih h with hread | ⟨text', hmem⟩
      · rw [Table.get?_upsert] at hread
        split at hread
        · cases hread
          exact .inr ⟨text, List.mem_cons_self ..⟩
        · exact .inl hread
      · exact .inr ⟨text', List.mem_cons_of_mem _ hmem⟩

/-- A stale template is the only one of its package if the configuration has a text for it. -/
def OneStale (env : BuildEnv) (d₀ : Disk) (stale : Set Place) (config : InstallerConfig) : Prop :=
  ∀ folder text, (folder, text) ∈ d₀.appconfigs → (ownContent env config folder).isSome →
    ∀ name ∈ templates d₀ folder, name :: folder :: agentPkgsDir ∈ stale →
      ∀ name' ∈ templates d₀ folder, name = name'

theorem renews_packageGenericAll (hs : Shipped env d₀) (hstale : stale ⊆ written env d₀)
    {request : BuildRequest} (hu : Usual env d₀ request)
    (hone : OneStale env d₀ stale request.installerConfig)
    {packages : Table (Option String) String}
    (hpackages : getPackages env d₀.appconfigs .empty = .ok packages) :
    Renews env d₀ stale (packageGenericAll env request packages) (fun _ => True) stale := by
  refine Lockstep.conseq (Lockstep.forEach (D := fun _ => Together env d₀ stale)
    (E := Beside env d₀ (written env d₀)) ?_) (fun _ _ hw => hw) (fun _ _ _ hw => ⟨trivial, hw⟩)
    fun _ _ hw => hw
  rintro _ ⟨name, custom⟩ _ -
  dsimp only
  split
  · exact .done fun _ _ hw => hw
  · rename_i folder hget
    rcases exists_appconfig_of_getPackages hpackages hget with hempty | ⟨text, happ⟩
    · cases hempty
    · exact (renews_packageGeneric hs hstale hu happ (hone folder text happ) _).post
        fun _ _ _ hw => hw.2

/-! ### Endgame -/

/-- The installers of earlier builds are gone from the folder of Endgame. -/
theorem renews_unlinkZips :
    Renews env d₀ stale (Program.perform (BuildOp.unlinkZips endgameDir)) (· = .ok ())
      (stale \ {p | ∃ name, isZip name = true ∧ p = name :: endgameDir}) := by
  have hzips {d : Disk} : ∀ name ∈ (d.glob endgameDir).filter isZip,
      name :: endgameDir ∈ written env d₀ := by
    intro name hname
    rw [endgameDir, mem_written_iff, Output, if_pos rfl]
    exact .inl (List.mem_filter.mp hname).2
  refine .perform (fun w w' hw => ?_) fun w w' hw => ?_
  · exact (unlinkEach_spec hzips hw.left).1.trans (unlinkEach_spec hzips hw.right).1.symm
  · obtain ⟨hok, hkept, hget⟩ := unlinkEach_spec hzips hw.left
    obtain ⟨-, hkept', hget'⟩ := unlinkEach_spec hzips hw.right
    refine ⟨hok, ⟨hkept, hkept', fun p hp => ?_⟩, hw.agentPath⟩
    by_cases hzip : ∃ name, isZip name = true ∧ p = name :: endgameDir
    · obtain ⟨name, hname, rfl⟩ := hzip
      -- a zip file that was not found was not there
      have hgone (d : Disk) : (if ∃ name' ∈ (d.glob endgameDir).filter isZip,
          name :: endgameDir = name' :: endgameDir then none else d.get? (name :: endgameDir)) =
          none := by
        split
        · rfl
        · rename_i hno
          by_contra hsome
          refine hno ⟨name, List.mem_filter.mpr ⟨mem_glob ?_, hname⟩, rfl⟩
          exact Option.isSome_iff_ne_none.mpr hsome
      exact ((hget _).trans (hgone _)).trans ((hget' _).trans (hgone _)).symm
    · have hother (d : Disk) : ¬ ∃ name ∈ (d.glob endgameDir).filter isZip,
          p = name :: endgameDir := by
        rintro ⟨name, hname, rfl⟩
        exact hzip ⟨name, (List.mem_filter.mp hname).2, rfl⟩
      refine (hget p).trans (((if_neg (hother _)).trans ?_).trans
        ((hget' p).trans (if_neg (hother _))).symm)
      exact hw.same p fun hmem => hp ⟨hmem, hzip⟩

theorem renews_saveInstaller (hs : Shipped env d₀) (hstale : stale ⊆ written env d₀)
    {package : EndgamePackage} {name : String} (hname : isZip name = true)
    (hplace : joinedPath endgameDir package.filename = name :: endgameDir) :
    Renews env d₀ stale (saveInstaller package endgameDir) (fun _ => True) stale := by
  have hout : name :: endgameDir ∈ written env d₀ := by
    rw [endgameDir, mem_written_iff, Output, if_pos rfl]
    exact .inl hname
  have hmake : Renews env d₀ stale (Program.perform (BuildOp.makeDir endgameDir)) (· = .ok ())
      stale := by
    have hdir {d : Disk} (h : Kept env d₀ d) : d.makeDir endgameDir = (.ok (), d) := by
      rw [Disk.makeDir, h.get? (notMem_written (by simp [endgameDir, agentPkgsDir])), hs.endgame]
    refine .perform (fun w w' hw => ?_) fun w w' hw => ?_
    · change (w.disk.makeDir endgameDir).1 = (w'.disk.makeDir endgameDir).1
      rw [hdir hw.left, hdir hw.right]
    · dsimp only [applyBuildOp]
      rw [hdir hw.left, hdir hw.right]
      exact ⟨rfl, hw⟩
  rw [saveInstaller, hplace]
  split
  · exact renews_raise hstale _
  · split
    · exact renews_raise hstale _
    · refine hmake.bind fun r => .assume ?_
      rintro rfl
      refine (renews_write hout _).post fun _ _ _ hw => ⟨trivial, hw.2.mono fun p hp => hp.1⟩

theorem renews_packageEndgame (hs : Shipped env d₀) (hstale : stale ⊆ written env d₀)
    {request : BuildRequest} (hu : Usual env d₀ request) :
    Renews env d₀ stale (packageEndgame env request) (fun _ => True) stale := by
  have hscript (name : String) (hname : name = "install.ps1" ∨ name = "uninstall.ps1") :
      name :: endgameDir ∈ written env d₀ := by
    rw [endgameDir, mem_written_iff, Output, if_pos rfl]
    exact .inr hname
  have hlong (name : String) : name :: "templates" :: endgameDir ∉ written env d₀ :=
    notMem_written (by simp [endgameDir, agentPkgsDir])
  rw [packageEndgame]
  split
  · refine renews_unlinkZips.bind fun r => .assume fun _ => ?_
    refine (renews_ofExcept (fun p hp => hstale hp.1) _).bind fun _ => .assume fun _ => ?_
    refine (renews_ofExcept (fun p hp => hstale hp.1) _).bind fun password => .assume fun _ => ?_
    refine (renews_ofExcept (fun p hp => hstale hp.1) _).bind fun package => .assume fun hsent => ?_
    obtain ⟨name, hname, hplace⟩ := hu.zipped _ _ hsent
    refine (renews_saveInstaller hs (fun p hp => hstale hp.1) hname hplace).bind
      fun _ => .assume fun _ => ?_
    refine (renews_createConfig (fun p hp => hstale hp.1) _ (hlong _)
      (hscript _ (.inl rfl))).bind fun _ => .assume fun _ => ?_
    refine (renews_createConfig (fun p hp => hstale hp.1.1) _ (hlong _)
      (hscript _ (.inr rfl))).bind fun _ => .assume fun _ => ?_
    -- what is in the folder is one of the files that were written just now
    refine (renews_copyPackage (fun p hp => hstale hp.1.1.1) fun name' hout => ?_).post
      fun _ _ _ hw => ⟨trivial, hw.2.mono fun p hp => hp.1.1.1⟩
    rintro ⟨⟨⟨-, hzip⟩, hinstall⟩, huninstall⟩
    rw [Output, if_pos rfl] at hout
    rcases hout with hout | rfl | rfl
    · exact hzip ⟨name', hout, rfl⟩
    · exact hinstall rfl
    · exact huninstall rfl
  · exact .done fun _ _ hw => ⟨trivial, hw⟩

/-! ### Builds -/

theorem renews_copyScript (hstale : stale ⊆ written env d₀) (name : String) :
    Renews env d₀ stale (copyScript name) (fun _ => True) stale := by
  refine (renews_stat (notMem_written (by simp [agentPkgsDir]))).bind fun entry =>
    .assume fun _ => ?_
  split
  · rename_i text _
    exact .perform (fun _ _ _ => rfl) fun w w' hw => ⟨trivial, ⟨hw.left, hw.right, hw.same⟩,
      congrArg (fun t : FileTree => t.set [name] (.file text)) hw.agentPath⟩
  · exact renews_raise hstale _
  · exact renews_raise hstale _

/-- Two builds of one installer, which is sent in the end. -/
theorem lockstep_post (hs : Shipped env d₀) (hstale : stale ⊆ written env d₀)
    {request : BuildRequest} (hu : Usual env d₀ request)
    (hone : OneStale env d₀ stale request.installerConfig) :
    Lockstep applyBuildOp (Beside env d₀ stale) (AgentGenerate.post env request)
      (fun _ => Beside env d₀ (written env d₀)) (Beside env d₀ (written env d₀)) := by
  have hconfigs : Lockstep applyBuildOp (Beside env d₀ stale)
      (Program.perform BuildOp.appconfigs : BuildProg (List (String × String)))
      (fun r w w' => r = d₀.appconfigs ∧ Beside env d₀ stale w w')
      (Beside env d₀ (written env d₀)) := by
    refine .perform (fun w w' hw => ?_) fun w w' hw => ⟨hw.left.appconfigs hs, hw⟩
    exact (hw.left.appconfigs hs).trans (hw.right.appconfigs hs).symm
  have hbuild : Lockstep applyBuildOp (Beside env d₀ stale) (buildAgent env request)
      (fun _ w w' => w.installers.get? request.installerConfig.id =
        w'.installers.get? request.installerConfig.id ∧ Beside env d₀ stale w w')
      (Beside env d₀ (written env d₀)) := by
    refine hconfigs.bind fun r => .assume ?_
    rintro rfl
    have hpackages : Lockstep applyBuildOp (Beside env d₀ stale)
        (Program.ofExcept (getPackages env d₀.appconfigs .empty))
        (fun packages w w' => getPackages env d₀.appconfigs .empty = .ok packages ∧
          Beside env d₀ stale w w') (Beside env d₀ (written env d₀)) :=
      .ofExcept (fun _ hr _ _ hw => ⟨hr, hw⟩) fun _ _ hw => hw.mono hstale
    refine hpackages.bind fun packages => .assume fun hread => ?_
    -- from here on both temporary directories have the same in them
    have hnew : Lockstep applyBuildOp (Beside env d₀ stale)
        (Program.perform BuildOp.newAgentPath : BuildProg Unit) (fun _ => Together env d₀ stale)
        (Beside env d₀ (written env d₀)) :=
      .perform (fun _ _ _ => rfl) fun w w' hw => ⟨⟨hw.left, hw.right, hw.same⟩, rfl⟩
    refine hnew.bind fun _ => ?_
    refine (renews_copyScript hstale "install.ps1").bind fun _ => .assume fun _ => ?_
    refine (renews_copyScript hstale "uninstall.ps1").bind fun _ => .assume fun _ => ?_
    refine (renews_packageEndgame hs hstale hu).bind fun _ => .assume fun _ => ?_
    refine (renews_packageGenericAll hs hstale hu hone hread).bind fun _ => .assume fun _ => ?_
    refine .perform (fun _ _ _ => rfl) fun w w' hw => ⟨?_, ⟨hw.left, hw.right, hw.same⟩⟩
    change (w.installers.upsert _ (zipPackage w.agentPath)).get? _ =
      (w'.installers.upsert _ (zipPackage w'.agentPath)).get? _
    rw [Table.get?_upsert, Table.get?_upsert, if_pos rfl, if_pos rfl, hw.agentPath]
  exact hbuild.bind fun _ => .perform (fun _ _ hw => hw.1) fun _ _ hw => hw.2.mono hstale

end

/-! ## Histories -/

section

variable {env : BuildEnv} {d₀ : Disk}

/-- What builds leave is kept: seen as two runs from one state, each of them keeps it. -/
theorem Kept.post (hs : Shipped env d₀) {request : BuildRequest} (hu : Usual env d₀ request)
    {w : World} (hw : Kept env d₀ w.disk) :
    Kept env d₀ ((AgentGenerate.post env request).run applyBuildOp w).2.disk := by
  have hsame : Beside env d₀ ∅ w w := ⟨hw, hw, fun _ _ => rfl⟩
  have hone : OneStale env d₀ ∅ request.installerConfig := fun _ _ _ _ _ _ h => h.elim
  exact ((lockstep_post hs (Set.empty_subset _) hu hone).leaves hsame).left

theorem Kept.afterAll (hs : Shipped env d₀) {requests : List BuildRequest}
    (hu : ∀ request ∈ requests, Usual env d₀ request) {w : World} (hw : Kept env d₀ w.disk) :
    Kept env d₀ (AgentBuilder.afterAll env requests w).disk := by
  induction requests generalizing w with
  | nil => exact hw
  | cons request requests ih =>
      rw [List.forall_mem_cons] at hu
      exact ih hu.2 (hw.post hs hu.1)

end

/-- Whatever was built before, by whom and with which outcome, a request is answered as it is
    on the packages as they were shipped, with the same installer or the same error, if no
    package for which its configuration has a text of its own has a second template. -/
theorem installer_of_history (env : BuildEnv) (d₀ : Disk) (hs : Shipped env d₀)
    (before : List BuildRequest) (hbefore : ∀ request ∈ before, Usual env d₀ request)
    (request : BuildRequest) (hu : Usual env d₀ request)
    (hall : RendersAll env d₀ request.installerConfig) (agentPath : FileTree)
    (installers : Table String Archive) :
    answer env request (afterAll env before ⟨d₀, agentPath, installers⟩) =
      answer env request ⟨d₀, agentPath, installers⟩ := by
  have hkept := hs.kept.afterAll (w := ⟨d₀, agentPath, installers⟩) hs hbefore
  have hbeside : Beside env d₀ (written env d₀) (afterAll env before ⟨d₀, agentPath, installers⟩)
      ⟨d₀, agentPath, installers⟩ :=
    ⟨hkept, hs.kept, fun _ hp => hkept.get? hp⟩
  exact (lockstep_post hs subset_rfl hu fun folder text happ hown name hname _ =>
    hall folder text happ hown name hname).answers hbeside

/-! ## One package -/

def winlogbeatDir : Place := "winlogbeat" :: agentPkgsDir

/-- Winlogbeat, and the folder of Endgame. -/
def winlogbeatDisk : Disk where
  rows := [("install.ps1" :: agentPkgsDir, .file "install"),
    ("uninstall.ps1" :: agentPkgsDir, .file "uninstall"),
    (endgameDir, .directory), (winlogbeatDir, .directory),
    ("appconfig.json" :: winlogbeatDir, .file "Winlogbeat"),
    ("templates" :: winlogbeatDir, .directory),
    ("winlogbeat.yml" :: "templates" :: winlogbeatDir, .file "hosts: ")]
  nodup := by decide

/-- A template is followed by what was filled in. -/
def plainEnv : BuildEnv where
  unicode := .ascii
  render
    | _, text, .custom package => .ok (text ++ ", ".intercalate (package.fields.map Prod.snd))
    | _, text, .apiToken token => .ok (text ++ token)
  packageName text := .ok (some text)
  offlineZips _ := []

def buildWinlogbeat (id destIp : String) (content : Option String) : BuildRequest where
  installerConfig :=
    { id := id
      installEndgame := false
      endgame := ⟨"", "", "", "", ""⟩
      customPackages := some [("Winlogbeat",
        ⟨[("winlog_beat_dest_ip", destIp)], true, some "templates/winlogbeat.yml", content⟩)] }
  readSecret _ _ := .error (.apiException 404)
  endgameServer _ := .error (.other "EndgameAgentException")

/-- The only directory in a folder is that of the templates. -/
theorem eq_of_directory {folder name : String}
    (h : winlogbeatDisk.get? (name :: folder :: agentPkgsDir) = some .directory) :
    name = "templates" ∧ folder = "winlogbeat" := by
  have hdirs : ∀ r ∈ winlogbeatDisk.rows, r.2 = .directory →
      r.1.length ≠ 5 ∨ r.1 = "templates" :: winlogbeatDir := by decide
  rcases hdirs _ (Table.get?_eq_some_iff.mp h) rfl with hlength | heq
  · exact absurd rfl hlength
  · cases heq
    exact ⟨rfl, rfl⟩

theorem eq_of_mem_templates {folder name : String}
    (h : name ∈ templates winlogbeatDisk folder) : name = "winlogbeat.yml" := by
  rw [templates] at h
  split at h
  · rename_i hdir
    rw [(eq_of_directory hdir).2] at h
    have hglob : winlogbeatDisk.glob ("templates" :: "winlogbeat" :: agentPkgsDir) =
        ["winlogbeat.yml"] := by decide
    rw [hglob] at h
    exact List.mem_singleton.mp h
  · cases h

theorem eq_of_mem_appconfigs {folder text : String}
    (h : (folder, text) ∈ winlogbeatDisk.appconfigs) : folder = "winlogbeat" := by
  have hconfigs : winlogbeatDisk.appconfigs = [("winlogbeat", "Winlogbeat")] := by decide
  rw [hconfigs, List.mem_singleton] at h
  cases h
  rfl

theorem shipped_winlogbeatDisk : Shipped plainEnv winlogbeatDisk where
  endgame := by decide
  folder folder text h := by
    rw [eq_of_mem_appconfigs h]
    exact ⟨⟨by decide, by decide, by decide, by decide⟩, by decide, by decide⟩
  free folder name h := by
    have hnames : ∀ name ∈ ["templates", "kubernetes", "appconfig.json"], isZip name = false ∧
        name ≠ "install.ps1" ∧ name ≠ "uninstall.ps1" ∧ name ≠ "winlogbeat.yml" := by decide
    have hname : name ∉ ["templates", "kubernetes", "appconfig.json"] := by
      intro hmem
      obtain ⟨hzip, hinstall, huninstall, hyml⟩ := hnames name hmem
      rw [Output] at h
      split at h
      · rcases h with h | h | h
        · exact absurd h (by rw [hzip]; decide)
        · exact hinstall h
        · exact huninstall h
      · rcases h with h | ⟨h, -⟩ | h
        · exact hyml (eq_of_mem_templates h)
        · exact absurd (eq_of_directory h).1 (by decide)
        · cases h
    refine ⟨hname, fun hdir => hname ?_⟩
    rw [(eq_of_directory hdir).1]
    exact List.mem_cons_self ..

theorem usual_buildWinlogbeat (id destIp : String) (content : Option String) :
    Usual plainEnv winlogbeatDisk (buildWinlogbeat id destIp content) where
  located folder text happ content' loc hown := by
    rw [eq_of_mem_appconfigs happ] at hown ⊢
    have hown' : ownContent plainEnv (buildWinlogbeat id destIp content).installerConfig
        "winlogbeat" = content.map fun text => (text, "templates/winlogbeat.yml") := by
      cases content <;> rfl
    obtain ⟨_, -, heq⟩ := Option.map_eq_some_iff.mp (hown'.symm.trans hown)
    cases heq
    exact ⟨"winlogbeat.yml", by decide, by decide⟩
  zipped _ _ h := by cases h

/-- A text of one's own, after a build for another address. -/
theorem installer_of_history_winlogbeat :
    answer plainEnv (buildWinlogbeat "2" "172.16.77.213" (some "output: "))
        (afterAll plainEnv [buildWinlogbeat "1" "172.16.77.212" none]
          ⟨winlogbeatDisk, .empty, .empty⟩) =
      answer plainEnv (buildWinlogbeat "2" "172.16.77.213" (some "output: "))
        ⟨winlogbeatDisk, .empty, .empty⟩ :=
  installer_of_history plainEnv winlogbeatDisk shipped_winlogbeatDisk
    [buildWinlogbeat "1" "172.16.77.212" none]
    (fun request h => by rw [List.mem_singleton.mp h]; exact usual_buildWinlogbeat ..)
    (buildWinlogbeat "2" "172.16.77.213" (some "output: ")) (usual_buildWinlogbeat ..)
    (fun _ _ _ _ name hname name' hname' =>
      (eq_of_mem_templates hname).trans (eq_of_mem_templates hname').symm) .empty .empty

end Tfplenum.AgentBuilder
