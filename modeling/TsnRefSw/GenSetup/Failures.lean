import TsnRefSw.GenSetup.Main

/-!
# Runs that fail

A run that ends with an error should leave `setup-generated.sh` alone. It leaves its own beginning
there instead: the file is emptied first, and each command is written when its turn comes.
-/

namespace TsnRefSw

open Core

namespace GenSetup

open Emit

/-! ### What is refused before the first command -/

section Failures

variable {F : Type}

/-- Not an object with these keys. -/
def Value.lacks (keys : List String) : Value F → Bool
  | .dict entries => keys.any fun k => (entries.lookup k).isNone
  | _             => true

/-- `len(x) == 0`. -/
def Value.empty (x : Value F) : Bool := x.len.toOption == some 0

/-- Of some objects that need an interface, the first that is not empty decides. -/
def FirstRefused (xs : List (Value F)) (rest : Prop) : Prop :=
  match xs.find? fun x => !x.empty with
  | none   => rest
  | some x => x.lacks ["interface"]

/-- The flow types are no list, or the first of them is refused. -/
def EthRefused (obj : Option (Value F)) (rest : Prop) : Prop :=
  match obj with
  | none     => rest
  | some obj =>
    match obj.iter with
    | .error _ => True
    | .ok xs   => FirstRefused xs rest

/-- A value that is no object. -/
structure NotDict (obj : Value F) : Prop where
  get : ∀ k, obj.get k = .error .attributeError
  getItem : ∀ k, obj.getItem k = .error .typeError
  setItem : ∀ k x, obj.setItem k x = .error .typeError
  lacks : ∀ keys, obj.lacks keys

lemma dict_or_notDict (obj : Value F) : (∃ entries, obj = .dict entries) ∨ NotDict obj := by
  cases obj with
  | dict entries => exact .inl ⟨entries, rfl⟩
  | none => exact .inr ⟨fun _ => rfl, fun _ => rfl, fun _ _ => rfl, fun _ => rfl⟩
  | bool b => exact .inr ⟨fun _ => rfl, fun _ => rfl, fun _ _ => rfl, fun _ => rfl⟩
  | int z => exact .inr ⟨fun _ => rfl, fun _ => rfl, fun _ _ => rfl, fun _ => rfl⟩
  | float x => exact .inr ⟨fun _ => rfl, fun _ => rfl, fun _ _ => rfl, fun _ => rfl⟩
  | string s => exact .inr ⟨fun _ => rfl, fun _ => rfl, fun _ _ => rfl, fun _ => rfl⟩
  | list xs => exact .inr ⟨fun _ => rfl, fun _ => rfl, fun _ _ => rfl, fun _ => rfl⟩

lemma refuses_getOr_bind {obj : Value F} (h : NotDict obj)
    (k : String) (x : Value F) (f : Value F → Gen Unit) : Refuses (getOr obj k x >>= f) := by
  rw [getOr, h.get]
  exact (refuses_lift _).bind _ |>.bind f

lemma outcome_getOr_bind (entries : List (String × Value F)) (k : String) (x : Value F)
    (f : Value F → Gen Unit) :
    (getOr (.dict entries) k x >>= f).outcome = (f ((entries.lookup k).getD x)).outcome :=
  Passes.outcome_bind rfl f

lemma getItem_dict_toOption (entries : List (String × Value F)) (key : String) :
    ((Value.dict entries).getItem key).toOption = entries.lookup key := by
  rw [Value.getItem]
  cases entries.lookup key <;> rfl

lemma outcome_withKey (entries : List (String × Value F)) (key : String)
    (f : Value F → Gen Unit) :
    (withKey (.dict entries) key f).outcome = ((entries.lookup key).elim (pure ()) f).outcome := by
  have hcontains : Passes (lift ((Value.dict entries).contains key) : Gen Bool)
      (entries.lookup key).isSome := rfl
  rw [withKey, hcontains.outcome_bind]
  cases h : entries.lookup key with
  | none => rfl
  | some obj =>
    have hitem : (Value.dict entries).getItem key = .ok obj := by rw [Value.getItem, h]
    rw [hitem]
    exact Passes.outcome_bind rfl f

lemma lacks_interface (entries : List (String × Value F)) :
    (Value.dict entries).lacks ["interface"] = (entries.lookup "interface").isNone :=
  Bool.or_false _

lemma acts_shRun_bind (cmd : Text) (f : Unit → Gen Unit) : Acts (shRun cmd >>= f) := by
  have hrun : Acts (shRun cmd) := List.cons_ne_nil _ _
  exact hrun.bind f

/-- What is done about an object that needs an interface and may be empty. -/
structure ChecksInterface (process : Value F → Gen Unit) : Prop where
  passes : ∀ data, data.empty → Passes (process data) ()
  refuses : ∀ data, ¬ data.empty → data.lacks ["interface"] → Refuses (process data)
  acts : ∀ data, ¬ data.empty → ¬ data.lacks ["interface"] → Acts (process data)

lemma ChecksInterface.of_body {process body : Value F → Gen Unit} {msg : Text}
    (hprocess : ∀ data, process data = do
      let n ← lift data.len
      if n = 0 then pure ()
      else do
        let found ← lift (data.contains "interface")
        if (!found) = true then do
          errExit msg
          body data
        else body data)
    (hother : ∀ data, NotDict data → Refuses (body data))
    (hacts : ∀ entries, Acts (body (.dict entries))) : ChecksInterface process := by
  have hempty : ∀ {data : Value F}, data.empty ↔ data.len = .ok 0 := by
    intro data
    rw [Value.empty, beq_iff_eq, toOption_eq_some_iff]
  have hlen : ∀ {data : Value F} {n : Nat}, data.len = .ok n → ¬ data.empty → n ≠ 0 := by
    rintro data _ hn h rfl
    exact h (hempty.mpr hn)
  constructor
  · intro data h
    rw [hprocess, hempty.mp h]
    exact Passes.outcome_bind rfl _
  · intro data h hlacks
    rw [hprocess]
    cases hn : data.len with
    | error x => exact (refuses_lift x).bind _
    | ok n =>
      rw [refuses_congr (Passes.outcome_bind (passes_lift n) _), if_neg (hlen hn h)]
      cases hfound : data.contains "interface" with
      | error x => exact (refuses_lift x).bind _
      | ok found =>
        rw [refuses_congr (Passes.outcome_bind (passes_lift found) _)]
        cases found with
        | false => exact (refuses_lift _).bind _
        | true =>
          rcases dict_or_notDict data with ⟨entries, rfl⟩ | hnot
          · rw [lacks_interface, Option.isNone_iff_eq_none] at hlacks
            rw [Value.contains, hlacks] at hfound
            cases hfound
          · exact hother data hnot
  · intro data h hlacks
    rcases dict_or_notDict data with ⟨entries, rfl⟩ | hnot
    · have hn : (Value.dict entries).len = .ok entries.length := rfl
      have hfound : (Value.dict entries).contains "interface" = .ok true := by
        rw [lacks_interface, Bool.not_eq_true, Option.isNone_eq_false_iff] at hlacks
        rw [Value.contains, hlacks]
      rw [hprocess, Acts, hn, Passes.outcome_bind (passes_lift _), if_neg (hlen hn h), hfound,
        Passes.outcome_bind (passes_lift _)]
      exact hacts entries
    · exact absurd (hnot.lacks _) hlacks

lemma refuses_forM_bind_iff {process : Value F → Gen Unit} (hprocess : ChecksInterface process)
    {xs : List (Value F)} {rest : Gen Unit} {P : Prop} (hrest : Refuses rest ↔ P) :
    Refuses (xs.forM process >>= fun _ => rest) ↔ FirstRefused xs P := by
  induction xs with
  | nil => exact (refuses_congr (Passes.outcome_bind rfl _)).trans hrest
  | cons x xs ih =>
    rw [FirstRefused, List.find?_cons, List.forM_eq_forM, List.forM_cons, ← List.forM_eq_forM]
    by_cases hempty : x.empty
    · rw [hempty]
      exact (refuses_congr (outcome_bind_congr
        ((hprocess.passes x hempty).outcome_bind _) _)).trans ih
    · rw [Bool.not_eq_true] at hempty
      rw [hempty]
      by_cases hlacks : x.lacks ["interface"]
      · exact iff_of_true (((hprocess.refuses x (by simp [hempty]) hlacks).bind _).bind _) hlacks
      · have hacts := ((hprocess.acts x (by simp [hempty]) hlacks).bind fun _ =>
          xs.forM process).bind fun _ => rest
        exact iff_of_false hacts.not_refuses hlacks

variable [Runtime F]

/-- The section is there but nothing is done about it. -/
def Value.skipped : Value F → Bool
  | .dict entries => !((entries.lookup "ignore_existing").getD (.bool false)).truth
  | _             => false

/-- A section that needs `keys` is refused, or it is passed over and the rest is refused. -/
def RefusedAt (keys : List String) (obj : Option (Value F)) (rest : Prop) : Prop :=
  match obj with
  | none     => rest
  | some obj => obj.lacks keys ∨ (obj.skipped ∧ rest)

/-- The first section that is not passed over is refused. -/
def SectionsRefused (data : Value F) : Prop :=
  RefusedAt ["interface"] (data.getItem "ptp").toOption <|
  RefusedAt ["clock", "interface"] (data.getItem "phc2sys").toOption <|
  EthRefused (data.getItem "eth_flowtype_ether_proto").toOption <|
  RefusedAt [] (data.getItem "custom_sync_a").toOption <|
  RefusedAt [] (data.getItem "custom_sync_b").toOption False

/-- The configuration is refused before anything is written: it cannot be read, it has no list of
groups, the first of these has no interface, or there are none and the first section is refused
likewise. -/
def ConfigFile.Refused : ConfigFile F → Prop
  | .missing    => True
  | .unreadable => True
  | .json data  =>
    match data.getItem "tc_group" >>= Value.iter with
    | .error _          => True
    | .ok []            => SectionsRefused data
    | .ok (eachTc :: _) => eachTc.lacks ["interface"]

/-! ### The keys of a section -/

lemma outcome_ensureKeyExists (name mapd : Value F) (k : String) :
    (mapd.contains k = .ok true ∧ Passes (ensureKeyExists name mapd k) ()) ∨
      (mapd.contains k ≠ .ok true ∧ Refuses (ensureKeyExists name mapd k)) := by
  rw [ensureKeyExists]
  cases mapd.contains k with
  | error x => exact .inr ⟨by simp, (refuses_lift x).bind _⟩
  | ok b =>
    cases b with
    | false =>
      refine .inr ⟨by simp, ?_⟩
      exact (refuses_congr (Passes.outcome_bind rfl _)).mpr (refuses_lift _)
    | true => exact .inl ⟨rfl, rfl⟩

lemma idle_ensureKeysExist (name mapd : Value F) (keys : List String) :
    (ensureKeysExist name mapd keys).outcome.2 = [] := by
  induction keys with
  | nil => rfl
  | cons k keys ih =>
    rw [ensureKeysExist, List.forM_eq_forM, List.forM_cons, ← List.forM_eq_forM]
    rcases outcome_ensureKeyExists name mapd k with ⟨-, hpass⟩ | ⟨-, hrefuse⟩
    · rw [hpass.outcome_bind]
      exact ih
    · exact (refuses_iff.mp (hrefuse.bind _)).2

/-- Where a key is missing, its check refuses; where none is, all checks pass. -/
lemma outcome_ensureKeysExist (name : Value F) (entries : List (String × Value F))
    (keys : List String) :
    (¬ (Value.dict entries).lacks keys ∧ Passes (ensureKeysExist name (.dict entries) keys) ()) ∨
      ((Value.dict entries).lacks keys ∧ Refuses (ensureKeysExist name (.dict entries) keys)) := by
  induction keys with
  | nil => exact .inl ⟨Bool.false_ne_true, rfl⟩
  | cons k keys ih =>
    have hlacks : (Value.dict entries).lacks (k :: keys) =
        ((entries.lookup k).isNone || (Value.dict entries).lacks keys) := rfl
    have hcontains : (Value.dict entries).contains k = .ok (entries.lookup k).isSome := rfl
    rw [hlacks, ensureKeysExist, List.forM_eq_forM, List.forM_cons, ← List.forM_eq_forM]
    rcases outcome_ensureKeyExists name (.dict entries) k with ⟨hk, hpass⟩ | ⟨hk, hrefuse⟩
    · rw [hcontains, Except.ok.injEq] at hk
      rw [Option.isNone_eq_false_iff.mpr hk, Bool.false_or, Passes, Refuses, hpass.outcome_bind]
      exact ih
    · rw [hcontains, ne_eq, Except.ok.injEq, Bool.not_eq_true, Option.isSome_eq_false_iff] at hk
      rw [hk, Bool.true_or]
      exact .inr ⟨rfl, hrefuse.bind _⟩

/-- What is done about a section that needs some keys. -/
structure Checks (keys : List String) (process : Value F → Gen Unit) : Prop where
  refuses : ∀ obj, obj.lacks keys → Refuses (process obj)
  passes : ∀ obj, ¬ obj.lacks keys → obj.skipped → Passes (process obj) ()
  acts : ∀ obj, ¬ obj.lacks keys → ¬ obj.skipped → Acts (process obj)

/-- A check of the keys, then the values of the section are taken from an object, and if it is not
skipped the first command is written. -/
lemma Checks.of_ensure {keys : List String} {process ensure body : Value F → Gen Unit}
    (hprocess : ∀ obj, process obj = ensure obj >>= fun _ => body obj)
    (hidle : ∀ obj, (ensure obj).outcome.2 = [])
    (hensure : ∀ entries, (¬ (Value.dict entries).lacks keys ∧ Passes (ensure (.dict entries)) ()) ∨
      ((Value.dict entries).lacks keys ∧ Refuses (ensure (.dict entries))))
    (hother : ∀ obj, NotDict obj → Refuses (body obj))
    (hbody : ∀ entries, ∃ cmd f, (body (.dict entries)).outcome =
      (if (Value.dict entries).skipped then pure () else shRun cmd >>= f : Gen Unit).outcome) :
    Checks keys process := by
  constructor
  · intro obj h
    rw [hprocess]
    rcases dict_or_notDict obj with ⟨entries, rfl⟩ | hnot
    · rcases hensure entries with ⟨hkeys, -⟩ | ⟨-, hrefuse⟩
      · exact absurd h hkeys
      · exact hrefuse.bind _
    · exact refuses_bind_of_idle (hidle obj) fun _ => hother obj hnot
  · intro obj h hskipped
    rw [hprocess]
    rcases dict_or_notDict obj with ⟨entries, rfl⟩ | hnot
    · rcases hensure entries with ⟨-, hpass⟩ | ⟨hkeys, -⟩
      · obtain ⟨cmd, f, hout⟩ := hbody entries
        rw [Passes, hpass.outcome_bind, hout, if_pos hskipped, outcome_pure]
      · exact absurd hkeys h
    · exact absurd (hnot.lacks keys) h
  · intro obj h hskipped
    rw [hprocess]
    rcases dict_or_notDict obj with ⟨entries, rfl⟩ | hnot
    · rcases hensure entries with ⟨-, hpass⟩ | ⟨hkeys, -⟩
      · obtain ⟨cmd, f, hout⟩ := hbody entries
        rw [Acts, hpass.outcome_bind, hout, if_neg hskipped]
        exact acts_shRun_bind cmd f
      · exact absurd hkeys h
    · exact absurd (hnot.lacks keys) h

lemma checks_processPtp : Checks ["interface"] (processPtp (F := F)) :=
  .of_ensure (fun _ => rfl) (fun obj => idle_ensureKeysExist _ obj _)
    (fun entries => outcome_ensureKeysExist _ entries _)
    (fun _ hnot => refuses_getOr_bind hnot _ _ _)
    fun entries => ⟨_, _, (outcome_getOr_bind entries _ _ _).trans <|
      (outcome_getOr_bind entries _ _ _).trans <| (outcome_getOr_bind entries _ _ _).trans <|
      (outcome_getOr_bind entries _ _ _).trans <| (outcome_getOr_bind entries _ _ _).trans rfl⟩

lemma checks_processPhc2sys : Checks ["clock", "interface"] (processPhc2sys (F := F)) :=
  .of_ensure (fun _ => rfl) (fun obj => idle_ensureKeysExist _ obj _)
    (fun entries => outcome_ensureKeysExist _ entries _)
    (fun _ hnot => refuses_getOr_bind hnot _ _ _)
    fun entries => ⟨_, _, (outcome_getOr_bind entries _ _ _).trans <|
      (outcome_getOr_bind entries _ _ _).trans <| (outcome_getOr_bind entries _ _ _).trans <|
      (outcome_getOr_bind entries _ _ _).trans rfl⟩

/-- The check of the custom sections never fails. -/
lemma passes_ensureKeysExist_interface2 (name : Value F) :
    Passes (ensureKeysExist name (.string "interface2") ["interface"]) () := rfl

lemma checks_processCustomA : Checks [] (processCustomA (F := F)) :=
  .of_ensure (fun _ => rfl) (fun obj => idle_ensureKeysExist obj _ _)
    (fun _ => .inl ⟨Bool.false_ne_true, passes_ensureKeysExist_interface2 _⟩)
    (fun _ hnot => refuses_getOr_bind hnot _ _ _)
    fun entries => ⟨_, _, (outcome_getOr_bind entries _ _ _).trans <|
      (outcome_getOr_bind entries _ _ _).trans <| (outcome_getOr_bind entries _ _ _).trans <|
      (outcome_getOr_bind entries _ _ _).trans <| (outcome_getOr_bind entries _ _ _).trans rfl⟩

lemma checks_processCustomB : Checks [] (processCustomB (F := F)) :=
  .of_ensure (fun _ => rfl) (fun obj => idle_ensureKeysExist obj _ _)
    (fun _ => .inl ⟨Bool.false_ne_true, passes_ensureKeysExist_interface2 _⟩)
    (fun _ hnot => refuses_getOr_bind hnot _ _ _)
    fun entries => ⟨_, _, (outcome_getOr_bind entries _ _ _).trans <|
      (outcome_getOr_bind entries _ _ _).trans <| (outcome_getOr_bind entries _ _ _).trans <|
      (outcome_getOr_bind entries _ _ _).trans <| (outcome_getOr_bind entries _ _ _).trans rfl⟩

/-- A section of the configuration, and what comes after it. -/
lemma refuses_withKey_bind_iff {keys : List String} {process : Value F → Gen Unit}
    (hprocess : Checks keys process) (entries : List (String × Value F)) (key : String)
    {rest : Gen Unit} {P : Prop} (hrest : Refuses rest ↔ P) :
    Refuses (withKey (.dict entries) key process >>= fun _ => rest) ↔
      RefusedAt keys ((Value.dict entries).getItem key).toOption P := by
  rw [getItem_dict_toOption, refuses_congr (outcome_bind_congr (outcome_withKey entries key process)
    fun _ => rest)]
  cases entries.lookup key with
  | none => exact (refuses_congr (Passes.outcome_bind rfl _)).trans hrest
  | some obj =>
    rw [Option.elim_some, RefusedAt]
    by_cases hlacks : obj.lacks keys
    · exact iff_of_true ((hprocess.refuses obj hlacks).bind _) (.inl hlacks)
    · by_cases hskipped : obj.skipped
      · rw [refuses_congr ((hprocess.passes obj hlacks hskipped).outcome_bind _), hrest]
        simp [hlacks, hskipped]
      · have hacts := (hprocess.acts obj hlacks hskipped).bind fun _ => rest
        simp [hlacks, hskipped, hacts.not_refuses]

/-! ### Groups and flow types -/

lemma checksInterface_processTcData : ChecksInterface (processTcData (F := F)) :=
  .of_body (fun _ => rfl)
    (fun data hnot => by
      rw [hnot.get]
      exact (refuses_lift _).bind _)
    (fun entries => by
      have hget : Passes (lift ((Value.dict entries).get "interface") : Gen _)
          (entries.lookup "interface") := rfl
      rw [Acts, hget.outcome_bind]
      exact (acts_shRun_bind _ _).bind _)

lemma checksInterface_processEthFlowtypeEtherProto :
    ChecksInterface (processEthFlowtypeEtherProto (F := F)) :=
  .of_body (fun _ => rfl) (fun _ hnot => refuses_getOr_bind hnot _ _ _)
    (fun entries => by
      rw [Acts, outcome_getOr_bind]
      exact ((acts_shRun_bind _ _).bind _).bind _)

lemma refuses_ethFlowtype_bind_iff (entries : List (String × Value F)) {rest : Gen Unit}
    {P : Prop} (hrest : Refuses rest ↔ P) :
    Refuses (withKey (.dict entries) "eth_flowtype_ether_proto"
        (forEach processEthFlowtypeEtherProto) >>= fun _ => rest) ↔
      EthRefused ((Value.dict entries).getItem "eth_flowtype_ether_proto").toOption P := by
  rw [getItem_dict_toOption, refuses_congr (outcome_bind_congr (outcome_withKey entries _ _) _)]
  cases entries.lookup "eth_flowtype_ether_proto" with
  | none => exact (refuses_congr (Passes.outcome_bind rfl _)).trans hrest
  | some obj =>
    rw [Option.elim_some, EthRefused, forEach]
    cases obj.iter with
    | error x => exact iff_of_true (((refuses_lift x).bind _).bind _) trivial
    | ok xs =>
      exact (refuses_congr (outcome_bind_congr (Passes.outcome_bind rfl _) _)).trans
        (refuses_forM_bind_iff checksInterface_processEthFlowtypeEtherProto hrest)

/-! ### All sections -/

/-- What `main()` does about a group. -/
lemma checks_tc (plat : Text) (eachTc : Value F) :
    (eachTc.lacks ["interface"] ∧
        Refuses (lift (eachTc.setItem "plat" (.string plat)) >>= processTcData)) ∨
      (¬ eachTc.lacks ["interface"] ∧
        Acts (lift (eachTc.setItem "plat" (.string plat)) >>= processTcData)) := by
  rcases dict_or_notDict eachTc with ⟨entries, rfl⟩ | hnot
  · have hpass : Passes (lift ((Value.dict entries).setItem "plat" (.string plat)) : Gen _)
        (Value.dict (setEntry "plat" (.string plat) entries)) := rfl
    have hlacks : (Value.dict (setEntry "plat" (.string plat) entries)).lacks ["interface"] =
        (Value.dict entries).lacks ["interface"] := by
      rw [lacks_interface, lacks_interface, lookup_setEntry_of_ne (by decide)]
    have hempty : ¬ (Value.dict (setEntry "plat" (.string plat) entries)).empty := by
      intro hlen
      have hnil : setEntry "plat" (.string plat) entries = [] :=
        List.length_eq_zero_iff.mp (Option.some.inj (beq_iff_eq.mp hlen))
      have hplat : (setEntry "plat" (.string plat) entries).lookup "plat" = some (.string plat) :=
        lookup_setEntry_self
      rw [hnil] at hplat
      cases hplat
    rw [Acts, refuses_congr (hpass.outcome_bind _), hpass.outcome_bind, ← hlacks]
    by_cases h : (Value.dict (setEntry "plat" (.string plat) entries)).lacks ["interface"]
    · exact .inl ⟨h, checksInterface_processTcData.refuses _ hempty h⟩
    · exact .inr ⟨h, checksInterface_processTcData.acts _ hempty h⟩
  · rw [hnot.setItem]
    exact .inl ⟨hnot.lacks _, (refuses_lift _).bind _⟩

/-- The first group has the last word. -/
lemma refuses_forM_tcGroup_iff {plat : Text} {eachTc : Value F} {tcs : List (Value F)}
    {rest : Gen Unit} :
    Refuses ((eachTc :: tcs).forM (fun eachTc : Value F =>
        lift (eachTc.setItem "plat" (.string plat)) >>= processTcData) >>= fun _ => rest) ↔
      eachTc.lacks ["interface"] := by
  rw [List.forM_eq_forM, List.forM_cons, ← List.forM_eq_forM]
  rcases checks_tc plat eachTc with ⟨hlacks, hrefuses⟩ | ⟨hlacks, hacts⟩
  · exact iff_of_true ((hrefuses.bind _).bind _) hlacks
  · exact iff_of_false ((hacts.bind _).bind _).not_refuses hlacks

lemma not_refuses_iperf3 (entries : List (String × Value F)) :
    ¬ Refuses (withKey (.dict entries) "iperf3" processIperf3) := by
  rw [refuses_congr (outcome_withKey entries _ _)]
  cases entries.lookup "iperf3" with
  | none => exact (passes_pure ()).not_refuses
  | some obj => exact (acts_shRun_bind _ _).not_refuses

lemma refuses_generateSections_iff (entries : List (String × Value F)) :
    Refuses (generateSections (.dict entries)) ↔ SectionsRefused (.dict entries) :=
  refuses_withKey_bind_iff checks_processPtp entries _ <|
  refuses_withKey_bind_iff checks_processPhc2sys entries _ <|
  refuses_ethFlowtype_bind_iff entries <|
  refuses_withKey_bind_iff checks_processCustomA entries _ <|
  refuses_withKey_bind_iff checks_processCustomB entries _ <|
  iff_false_intro (not_refuses_iperf3 entries)

/-- A run stops before its first command if and only if the configuration is refused. -/
lemma refuses_generate_iff {plat : Text} {file : ConfigFile F} :
    Refuses (generate plat file) ↔ file.Refused := by
  cases file with
  | missing => exact iff_of_true (refuses_lift _) trivial
  | unreadable => exact iff_of_true (refuses_lift _) trivial
  | json data =>
    rw [generate, ConfigFile.Refused]
    rcases dict_or_notDict data with ⟨entries, rfl⟩ | hnot
    · cases hgroup : (Value.dict entries).getItem "tc_group" with
      | error x => exact iff_of_true ((refuses_lift x).bind _) trivial
      | ok group =>
        have hbind : (Except.ok group >>= Value.iter) = group.iter := rfl
        rw [refuses_congr (Passes.outcome_bind (passes_lift group) _), forEach, hbind]
        cases group.iter with
        | error x => exact iff_of_true (((refuses_lift x).bind _).bind _) trivial
        | ok tcs =>
          rw [refuses_congr (outcome_bind_congr (Passes.outcome_bind (passes_lift tcs) _) _)]
          cases tcs with
          | nil =>
            exact (refuses_congr (Passes.outcome_bind (passes_pure ()) _)).trans
              (refuses_generateSections_iff entries)
          | cons eachTc tcs => exact refuses_forM_tcGroup_iff
    · rw [hnot.getItem]
      exact iff_of_true ((refuses_lift _).bind _) trivial

/-! ### What is in the file -/

/-- What a run writes, whether it succeeds or not. -/
def written (plat : Text) (file : ConfigFile F) : List FileOp := (generate plat file).outcome.2

/-- A script with the given operations behind the first line. -/
def script (ops : List FileOp) : Text := "#!/bin/bash\n".toList ++ ops.flatMap FileOp.text

lemma setupGenerated_foldl {ops : List FileOp} {d : Disk} {t : Text}
    (h : d.setupGenerated = some t) :
    (ops.foldl FileOp.apply d).setupGenerated = some (t ++ ops.flatMap FileOp.text) := by
  induction ops generalizing d t with
  | nil => rw [List.foldl_nil, h, List.flatMap_nil, List.append_nil]
  | cons op ops ih =>
    have hop : (op.apply d).setupGenerated = some (t ++ op.text) := by
      cases op with
      | iperf3 cmd => exact h.trans (congrArg some (List.append_nil t).symm)
      | write _ => exact congrArg (fun o => some (o.getD [] ++ _)) h
      | run _ => exact congrArg (fun o => some (o.getD [] ++ _)) h
      | runAsync _ => exact congrArg (fun o => some (o.getD [] ++ _)) h
    rw [List.foldl_cons, ih hop, List.flatMap_cons, List.append_assoc]

/-- After a run, the file has what was written, and nothing else. -/
lemma setupGenerated_main (plat : Text) (file : ConfigFile F) (d : Disk) :
    (main plat file d).2.setupGenerated = some (script (written plat file)) :=
  setupGenerated_foldl rfl

/-! ### After a failure -/

/-- A failed run leaves the script alone: it is as it was before, and the run phase will not find
in it what the run has begun to write. -/
structure LeavesAlone (plat : Text) (file : ConfigFile F) (d : Disk) : Prop where
  unchanged : (main plat file d).2.setupGenerated = d.setupGenerated
  noPrefix : ∀ ops, ops <+: written plat file → ops ≠ [] →
    executed (main plat file d).2 ≠ some (script ops)

/-- The commands of the groups before the one that fails stay in the script. -/
lemma main_of_group_error {plat : Text} {entries : List (String × Value F)} {d : Disk}
    {tcs tcs' : List (Value F)} {eachTc : Value F} {x : Failure} {ops ops' : List FileOp}
    (hgroup : entries.lookup "tc_group" = some (.list (tcs ++ eachTc :: tcs')))
    (htcs : (tcs.forM fun eachTc => lift (eachTc.setItem "plat" (.string plat)) >>=
      processTcData).outcome = (.ok (), ops))
    (htc : (lift (eachTc.setItem "plat" (.string plat)) >>= processTcData).outcome =
      (.error x, ops')) :
    (main plat (.json (.dict entries)) d).1 = .error x ∧
      (main plat (.json (.dict entries)) d).2.setupGenerated = some (script (ops ++ ops')) := by
  have hgenerate : (generate plat (.json (.dict entries))).outcome = (.error x, ops ++ ops') := by
    have hitem : (Value.dict entries).getItem "tc_group" = .ok (.list (tcs ++ eachTc :: tcs')) := by
      rw [Value.getItem, hgroup]
    have hloop := outcome_forM_of_error htcs htc tcs'
    rw [generate, hitem, Passes.outcome_bind (passes_lift _), forEach]
    exact outcome_bind_of_error ((Passes.outcome_bind (passes_lift _) _).trans hloop) _
  rw [setupGenerated_main, written, main, hgenerate]
  exact ⟨rfl, rfl⟩

/-- A failed run leaves the script alone if and only if there was nothing in it but the first line,
and the configuration is refused before the first command. -/
theorem main_leavesAlone_iff {plat : Text} {file : ConfigFile F} {d : Disk} {x : Failure}
    (h : (main plat file d).1 = .error x) :
    LeavesAlone plat file d ↔ d.setupGenerated = some "#!/bin/bash\n".toList ∧ file.Refused := by
  have hscript : script [] = "#!/bin/bash\n".toList := List.append_nil _
  have hrefused : file.Refused ↔ written plat file = [] := by
    have hiff : Refuses (generate plat file) ↔ file.Refused := refuses_generate_iff
    refine hiff.symm.trans ?_
    exact refuses_iff.trans (and_iff_right ⟨x, h⟩)
  have hmain := setupGenerated_main plat file d
  rw [hrefused]
  constructor
  · rintro ⟨hunchanged, hnone⟩
    have hnil : written plat file = [] := by
      by_contra hne
      exact hnone _ List.prefix_rfl hne hmain
    rw [hnil, hscript, hunchanged] at hmain
    exact ⟨hmain, hnil⟩
  · rintro ⟨hd, hnil⟩
    constructor
    · rw [hmain, hnil, hscript, hd]
    · intro ops hprefix hne
      rw [hnil, List.prefix_nil] at hprefix
      exact absurd hprefix hne

end Failures

/-! ### Without and with a script -/

/-- A configuration whose only group has no interface. -/
private def ungrouped : List (String × Value Empty) := [("tc_group", .list [.dict []])]

/-- There is no file, or the one just given. -/
theorem main_leavesAlone_iff_missing :
    LeavesAlone [] (.missing : ConfigFile Empty) ⟨some "#!/bin/bash\n".toList, none⟩ ∧
      LeavesAlone [] (.json (.dict ungrouped)) ⟨some "#!/bin/bash\n".toList, none⟩ :=
  ⟨(main_leavesAlone_iff rfl).mpr ⟨rfl, trivial⟩,
    (main_leavesAlone_iff rfl).mpr ⟨rfl, rfl⟩⟩

/-- A configuration where the second group has no interface. -/
private def halfGrouped : List (String × Value Empty) :=
  [("tc_group", .list [.dict [("interface", .string "eth0")], .dict []])]

/-- There is a script with the commands of the first group. -/
theorem not_main_leavesAlone :
    ¬ ∀ (plat : Text) (file : ConfigFile Empty) (d : Disk) (x : Failure),
      (main plat file d).1 = .error x → LeavesAlone plat file d := by
  intro h
  have hgroup : halfGrouped.lookup "tc_group" =
      some (.list ([.dict [("interface", .string "eth0")]] ++ .dict [] :: [])) := rfl
  obtain ⟨hfailed, hscript⟩ := main_of_group_error hgroup (d := ⟨none, none⟩) rfl rfl
  have hunchanged := (h [] _ _ _ hfailed).unchanged
  rw [hscript] at hunchanged
  cases hunchanged

end GenSetup

end TsnRefSw
