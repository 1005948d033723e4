import Fleetd.PluginHost.Sandbox

/-!
# The reach of a profile

The text of a profile reads back as the rules it was written from, whatever the declared paths are
called, so the reach of a profile is the reach of these rules: the declared roots, what lies above
and below them, and the fixed system directories.
-/

namespace Fleetd.PluginHost

open Policy Serde

/-! ## Texts -/

/-- A rule that allows operations on one declared path. -/
def pathRule (operation : String) (filter : String → Filter) (path : CanonicalPath) : ProfileRule :=
  ⟨.allow, operation, [filter path.text]⟩

/-- The way in which a rule for a path is opened. -/
def OpensRule (opening : String) (rule : CanonicalPath → ProfileRule) : Prop :=
  ∀ path, (opening ++ seatbeltString path ++ "))\n").toList =
    (rule path).expr.render.toList ++ ['\n'] ∧ (rule path).expr.plain = true

/-- A rule is opened with its operation and the kind of its filter. -/
theorem opensRule {opening operation kind : String} {filter : String → Filter}
    (hopening : opening = "(allow " ++ operation ++ " (" ++ kind ++ " ")
    (hfilter : ∀ text, (filter text).expr = .list [.symbol kind, .text text])
    (hoperation : (Expr.symbol operation).plain = true) (hkind : (Expr.symbol kind).plain = true) :
    OpensRule opening (pathRule operation filter) := by
  intro path
  have hexpr : (pathRule operation filter path).expr = .list [.symbol "allow", .symbol operation,
      .list [.symbol kind, .text path.text]] := by
    simp only [pathRule, ProfileRule.expr, Verdict.word, List.map_cons, List.map_nil, hfilter]
  have hallow : (Expr.symbol "allow").plain = true := by decide
  rw [hexpr]
  constructor
  · simp only [hopening, Expr.render, Expr.renderMore, seatbeltString, String.toList_append,
      String.toList_singleton, List.append_assoc]
    rfl
  · simp only [Expr.plain, Expr.plainAll] at hallow hoperation hkind ⊢
    rw [hallow, hoperation, hkind]
    rfl

theorem opensRule_literalRead :
    OpensRule "(allow file-read* (literal " (pathRule "file-read*" .literal) :=
  opensRule (by decide) (fun _ => rfl) (by decide) (by decide)

theorem opensRule_subpathRead :
    OpensRule "(allow file-read* (subpath " (pathRule "file-read*" .subpath) :=
  opensRule (by decide) (fun _ => rfl) (by decide) (by decide)

theorem opensRule_subpathWrite :
    OpensRule "(allow file-write* (subpath " (pathRule "file-write*" .subpath) :=
  opensRule (by decide) (fun _ => rfl) (by decide) (by decide)

/-- A text that lays out expressions, in front of whatever follows. -/
def WritesExprs (text : String) (items : List Expr) : Prop := Lays text.toList (Expr.laidAll items)

theorem laidAll_append (items more : List Expr) :
    Expr.laidAll (items ++ more) = Expr.laidAll items ++ Expr.laidAll more := by
  induction items with
  | nil => rfl
  | cons item items ih => rw [List.cons_append, Expr.laidAll, ih, Expr.laidAll, List.append_assoc]

theorem laidAll_singleton (item : Expr) : Expr.laidAll [item] = item.laid := List.append_nil _

theorem WritesExprs.append {text more : String} {items others : List Expr}
    (h : WritesExprs text items) (hmore : WritesExprs more others) :
    WritesExprs (text ++ more) (items ++ others) := by
  rw [WritesExprs, String.toList_append, laidAll_append]
  exact Lays.append h hmore

/-- A line holds one expression. -/
theorem lays_line {e : Expr} (he : e.plain = true) : Lays (e.render.toList ++ ['\n']) e.laid := by
  have hspace : Lays ['\n'] [] := Lays.space rfl
  have hlays := Lays.render e he rfl hspace
  rwa [List.append_nil] at hlays

theorem lays_lines {items : List Expr} (hplain : Expr.plainAll items = true) :
    Lays (items.flatMap fun e => e.render.toList ++ ['\n']) (Expr.laidAll items) := by
  induction items with
  | nil => exact Lays.nil
  | cons item items ih =>
    obtain ⟨hitem, hitems⟩ := Bool.and_eq_true_iff.1 hplain
    exact (lays_line hitem).append (ih hitems)

/-- The rules that are pushed for some paths stand behind those that were there. -/
theorem pushRules_writes {opening : String} {rule : CanonicalPath → ProfileRule}
    (hopens : OpensRule opening rule) (paths : List CanonicalPath) {profile : String}
    {items : List Expr} (h : WritesExprs profile items) :
    WritesExprs (pushRules opening paths profile) (items ++ (paths.map rule).map ProfileRule.expr) := by
  induction paths generalizing profile items with
  | nil =>
    rw [List.map_nil, List.map_nil, List.append_nil]
    exact h
  | cons path paths ih =>
    have hline : WritesExprs (opening ++ seatbeltString path ++ "))\n") [(rule path).expr] := by
      rw [WritesExprs, (hopens path).1, laidAll_singleton]
      exact lays_line (hopens path).2
    have hpushed := ih (h.append hline)
    rw [← String.append_assoc, ← String.append_assoc] at hpushed
    rw [List.append_assoc] at hpushed
    exact hpushed

/-! ## Strict profiles -/

/-- The directories that every plugin may read. -/
def systemDirectories : List String :=
  ["/System", "/Library", "/usr", "/bin", "/sbin", "/dev", "/private/etc"]

/-- The rules in front of the declared ones. -/
def ambientRules : List ProfileRule :=
  [⟨.allow, "process*", []⟩, ⟨.allow, "signal", [.target "same-sandbox"]⟩, ⟨.allow, "sysctl-read", []⟩,
    ⟨.allow, "mach-lookup", []⟩, ⟨.allow, "ipc-posix*", []⟩, ⟨.allow, "file-read-metadata", []⟩,
    ⟨.allow, "file-write*", [.literal "/dev/null"]⟩,
    ⟨.allow, "file-read*", .literal "/" :: systemDirectories.map Filter.subpath⟩]

/-- The rules for the declared roots and the network. -/
def declaredRules (writable readOnly : List CanonicalPath) (network : SandboxNetwork) :
    List ProfileRule :=
  (rootAncestors (writable ++ readOnly)).map (pathRule "file-read*" .literal) ++
    (writable ++ readOnly).map (pathRule "file-read*" .subpath) ++
    writable.map (pathRule "file-write*" .subpath) ++
    if network = .allowOutbound then [⟨.allow, "network-outbound", []⟩] else []

def strictRules (writable readOnly : List CanonicalPath) (network : SandboxNetwork) :
    List ProfileRule :=
  ⟨.deny, "default", []⟩ :: (ambientRules ++ declaredRules writable readOnly network)

/-- The filters of the last rule in front of the declared ones. -/
def systemFilters : List Expr := (.literal "/" :: systemDirectories.map Filter.subpath).map Filter.expr

/-- The expressions of the prelude that stand on one line. -/
def preludeLines : List Expr :=
  versionExpr :: ProfileRule.expr ⟨.deny, "default", []⟩ :: (ambientRules.take 7).map ProfileRule.expr

/-- The prelude is written line by line. -/
theorem strictPrelude_toList : strictPrelude.toList =
    (preludeLines.flatMap fun e => e.render.toList ++ ['\n']) ++
      (['('] ++ ("allow".toList ++ ' ' :: ("file-read*".toList ++
        ((Expr.renderMore '\n' systemFilters).toList ++ ')' :: ['\n'])))) := by
  decide +kernel

/-- The prelude lays out its rules, the last of them on several lines. -/
theorem strictPrelude_writes : WritesExprs strictPrelude
    (versionExpr :: ProfileRule.expr ⟨.deny, "default", []⟩ :: ambientRules.map ProfileRule.expr) := by
  have hline : Lays ['\n'] [] := Lays.space rfl
  have hspace : Lays [' '] [] := Lays.space rfl
  have hsep : isSpace '\n' = true := rfl
  have hfilters := Lays.renderMore hsep systemFilters (by decide) (Lays.closing.append hline)
  obtain ⟨c, rest, hrest, hc⟩ := renderMore_head hsep systemFilters ['\n']
  have hoperation : Lays ("file-read*".toList ++
      ((Expr.renderMore '\n' systemFilters).toList ++ ')' :: ['\n']))
      (.symbol "file-read*" :: (Expr.laidAll systemFilters ++ ([.closing] ++ []))) := by
    change Lays ((Expr.renderMore '\n' systemFilters).toList ++ ')' :: ['\n']) _ at hfilters
    rw [hrest] at hfilters ⊢
    exact Lays.symbol (by decide) (by decide) hc hfilters
  have hallow : Lays ("allow".toList ++ ' ' :: ("file-read*".toList ++
      ((Expr.renderMore '\n' systemFilters).toList ++ ')' :: ['\n'])))
      (.symbol "allow" :: .symbol "file-read*" ::
        (Expr.laidAll systemFilters ++ ([.closing] ++ []))) :=
    Lays.symbol (by decide) (by decide) rfl (hspace.append hoperation)
  have hlines : Lays (preludeLines.flatMap fun e => e.render.toList ++ ['\n'])
      (Expr.laidAll preludeLines) := lays_lines (by decide)
  rw [WritesExprs, strictPrelude_toList]
  exact hlines.append (Lays.opening.append hallow)

theorem network_writes (network : SandboxNetwork) :
    WritesExprs (if network = .allowOutbound then "(allow network-outbound)\n" else "")
      ((if network = .allowOutbound then [⟨.allow, "network-outbound", []⟩] else []).map
        ProfileRule.expr) := by
  cases network with
  | deny => exact Lays.nil
  | allowOutbound =>
    have hlines : Expr.plainAll [ProfileRule.expr ⟨.allow, "network-outbound", []⟩] = true := by decide
    exact lays_lines hlines

/-- A strict profile reads back as its rules. -/
theorem readProfile_seatbeltProfile (writable readOnly : List CanonicalPath)
    (network : SandboxNetwork) :
    readProfile (seatbeltProfile writable readOnly network) =
      some (strictRules writable readOnly network) := by
  apply readProfile_of_lays
  have hancestors := pushRules_writes opensRule_literalRead
    (rootAncestors (writable ++ readOnly)) strictPrelude_writes
  have hreads := pushRules_writes opensRule_subpathRead (writable ++ readOnly) hancestors
  have hwrites := (pushRules_writes opensRule_subpathWrite writable hreads).append
    (network_writes network)
  have hprofile : seatbeltProfile writable readOnly network = pushRules "(allow file-write* (subpath "
      writable (pushRules "(allow file-read* (subpath " (writable ++ readOnly)
        (pushRules "(allow file-read* (literal " (rootAncestors (writable ++ readOnly)) strictPrelude)) ++
      (if network = .allowOutbound then "(allow network-outbound)\n" else "") := by
    cases network with
    | deny => exact (String.append_empty).symm
    | allowOutbound => rfl
  have hitems : versionExpr :: (strictRules writable readOnly network).map ProfileRule.expr =
      versionExpr :: ProfileRule.expr ⟨.deny, "default", []⟩ :: ambientRules.map ProfileRule.expr ++
        ((rootAncestors (writable ++ readOnly)).map (pathRule "file-read*" .literal)).map
          ProfileRule.expr ++
        ((writable ++ readOnly).map (pathRule "file-read*" .subpath)).map ProfileRule.expr ++
        (writable.map (pathRule "file-write*" .subpath)).map ProfileRule.expr ++
        (if network = .allowOutbound then [⟨.allow, "network-outbound", []⟩] else []).map
          ProfileRule.expr := by
    simp only [strictRules, declaredRules, List.map_cons, List.map_append, List.cons_append,
      List.append_assoc]
  rw [hprofile, hitems]
  exact hwrites

/-! ## Reach -/

/-- An operation on a file. -/
def onFile (operation : String) (path : CanonicalPath) (sameSandbox : Bool) : SandboxRequest :=
  ⟨operation, some path, sameSandbox⟩

/-- The operations whose names start with a word. -/
def Starts (word operation : String) : Prop := word.toList <+: operation.toList

instance (word operation : String) : Decidable (Starts word operation) :=
  inferInstanceAs (Decidable (_ <+: _))

theorem verdict_ambientRules : ∀ rule ∈ ambientRules, rule.verdict = .allow := by
  decide

theorem verdict_declaredRules {writable readOnly : List CanonicalPath} {network : SandboxNetwork} :
    ∀ rule ∈ declaredRules writable readOnly network, rule.verdict = .allow := by
  intro rule hrule
  simp only [declaredRules, List.mem_append, List.mem_map] at hrule
  rcases hrule with ((⟨_, _, rfl⟩ | ⟨_, _, rfl⟩) | ⟨_, _, rfl⟩) | hrule
  · rfl
  · rfl
  · rfl
  · split at hrule
    · rw [List.mem_singleton] at hrule
      rw [hrule]
    · cases hrule

/-- A strict profile permits what one of its allowing rules covers. -/
theorem permits_strictRules {writable readOnly : List CanonicalPath} {network : SandboxNetwork}
    {request : SandboxRequest} : Permits (strictRules writable readOnly network) request ↔
      ∃ rule ∈ ambientRules ++ declaredRules writable readOnly network,
        rule.covers request = true := by
  have hallow : ∀ rule ∈ ambientRules ++ declaredRules writable readOnly network,
      rule.verdict = .allow := by
    intro rule hrule
    rcases List.mem_append.1 hrule with hrule | hrule
    · exact verdict_ambientRules rule hrule
    · exact verdict_declaredRules rule hrule
  have hdefault : ¬ Permits [⟨.deny, "default", []⟩] request := by
    intro hpermits
    have hdeny : Permits ([] ++ [⟨.deny, "default", []⟩]) request := hpermits
    exact grants_nil request ((grants_concat_deny rfl request).1 hdeny).1
  rw [Permits, strictRules, ← List.singleton_append, grants_append_allow hallow]
  exact or_iff_right hdefault

/-- A rule for a path covers the operations of its pattern on what its filter admits. -/
theorem covers_pathRule {operation : String} {filter : String → Filter} {path : CanonicalPath}
    {request : SandboxRequest} : (pathRule operation filter path).covers request = true ↔
      patternCovers operation request.operation = true ∧
        (filter path.text).admits request = true := by
  simp only [pathRule, ProfileRule.covers, List.isEmpty_cons, List.any_cons, List.any_nil,
    Bool.false_or, Bool.or_false, Bool.and_eq_true]

theorem admits_literal (directory : CanonicalPath) {path : CanonicalPath} {operation : String}
    {same : Bool} : (Filter.literal directory.text).admits (onFile operation path same) = true ↔ path = directory := by
  rw [Filter.admits, onFile, Option.any_some, decide_eq_true_iff, pathComponents_text]
  exact ⟨fun h => CanonicalPath.ext h.symm, fun h => congrArg CanonicalPath.components h.symm⟩

theorem admits_subpath {directory path : CanonicalPath} {operation : String} {same : Bool} :
    (Filter.subpath directory.text).admits (onFile operation path same) = true ↔
      CanonicalPath.Under directory path := by
  rw [Filter.admits, onFile, Option.any_some, pathComponents_text, List.isPrefixOf_iff_prefix]
  rfl

/-- The directories above declared roots are collected once each. -/
theorem mem_rootAncestors {roots : List CanonicalPath} {directory : CanonicalPath} :
    directory ∈ rootAncestors roots ↔ ∃ root ∈ roots, CanonicalPath.Above directory root := by
  have hinner : ∀ (above : List CanonicalPath) (ancestors : Finset CanonicalPath),
      directory ∈ above.foldl (fun ancestors ancestor =>
        if ancestor ≠ CanonicalPath.root then insert ancestor ancestors else ancestors) ancestors ↔
      directory ∈ ancestors ∨ directory ∈ above ∧ directory ≠ CanonicalPath.root := by
    intro above
    induction above with
    | nil => simp
    | cons ancestor above ih =>
      intro ancestors
      rw [List.foldl_cons, ih, List.mem_cons]
      by_cases hroot : ancestor = CanonicalPath.root
      · rw [if_neg (not_not.2 hroot), hroot]
        tauto
      · rw [if_pos hroot, Finset.mem_insert]
        constructor
        · rintro ((rfl | hmem) | hmem)
          · exact .inr ⟨.inl rfl, hroot⟩
          · exact .inl hmem
          · exact .inr ⟨.inr hmem.1, hmem.2⟩
        · tauto
  have houter : ∀ ancestors : Finset CanonicalPath,
      directory ∈ roots.foldl (fun ancestors root => root.ancestors.tail.foldl (fun ancestors ancestor =>
        if ancestor ≠ CanonicalPath.root then insert ancestor ancestors else ancestors) ancestors)
          ancestors ↔
      directory ∈ ancestors ∨ ∃ root ∈ roots, CanonicalPath.Above directory root := by
    induction roots with
    | nil => simp
    | cons root roots ih =>
      intro ancestors
      rw [List.foldl_cons, ih, hinner, CanonicalPath.mem_ancestors_tail, or_assoc]
      simp only [List.mem_cons, exists_eq_or_imp]
  rw [rootAncestors, Finset.mem_sort, houter]
  simp only [Finset.notMem_empty, false_or]

/-! ### Operations -/

/-- A pattern covers no operation whose name starts with a word. -/
def patternApart (pattern word : String) : Bool :=
  pattern ≠ "default" &&
    if pattern.toList.getLast? = some '*' then
      !pattern.toList.dropLast.isPrefixOf word.toList && !word.toList.isPrefixOf pattern.toList.dropLast
    else !word.toList.isPrefixOf pattern.toList

theorem patternCovers_apart {pattern word operation : String} (h : Starts word operation)
    (hapart : patternApart pattern word = true) : patternCovers pattern operation = false := by
  rw [patternApart, Bool.and_eq_true, decide_eq_true_iff] at hapart
  obtain ⟨hdefault, hapart⟩ := hapart
  rw [patternCovers, if_neg hdefault]
  split at hapart
  case isTrue hstar =>
    rw [if_pos hstar]
    rw [Bool.and_eq_true, Bool.not_eq_true', Bool.not_eq_true'] at hapart
    apply Bool.eq_false_of_not_eq_true
    intro hcovers
    rcases List.prefix_or_prefix_of_prefix h (List.isPrefixOf_iff_prefix.1 hcovers) with hword | hstem
    · exact Bool.false_ne_true (hapart.2.symm.trans (List.isPrefixOf_iff_prefix.2 hword))
    · exact Bool.false_ne_true (hapart.1.symm.trans (List.isPrefixOf_iff_prefix.2 hstem))
  case isFalse hstar =>
    rw [if_neg hstar, decide_eq_false_iff_not]
    rintro rfl
    rw [Bool.not_eq_true'] at hapart
    exact Bool.false_ne_true (hapart.symm.trans (List.isPrefixOf_iff_prefix.2 h))

/-- A pattern with a star covers the operations that start with what stands before it. -/
theorem patternCovers_star {pattern operation : String} (word : String)
    (hpattern : pattern.toList = word.toList ++ ['*']) :
    patternCovers pattern operation = true ↔ Starts word operation := by
  have hdefault : pattern ≠ "default" := by
    rintro rfl
    have hlast := congrArg List.getLast? hpattern
    rw [List.getLast?_concat] at hlast
    exact absurd hlast (by decide)
  rw [patternCovers, if_neg hdefault, hpattern, List.getLast?_concat, if_pos rfl, List.dropLast_concat,
    List.isPrefixOf_iff_prefix]
  rfl

/-- A pattern without a star covers the operation of its name. -/
theorem patternCovers_name {pattern operation : String} (hdefault : pattern ≠ "default")
    (hstar : pattern.toList.getLast? ≠ some '*') :
    patternCovers pattern operation = true ↔ operation = pattern := by
  rw [patternCovers, if_neg hdefault, if_neg hstar, decide_eq_true_iff]
  exact eq_comm

/-- A rule without filters covers what its pattern does. -/
theorem covers_unfiltered {verdict : Policy.Verdict} {operation : String} {request : SandboxRequest} :
    ProfileRule.covers ⟨verdict, operation, []⟩ request = patternCovers operation request.operation := by
  rw [ProfileRule.covers, List.isEmpty_nil, Bool.true_or, Bool.and_true]

/-- A rule covers no operation that its pattern is apart from. -/
theorem not_covers_of_apart {rule : ProfileRule} {word : String} {request : SandboxRequest}
    (h : Starts word request.operation) (hapart : patternApart rule.operation word = true) :
    ¬ rule.covers request = true := by
  rw [ProfileRule.covers, patternCovers_apart h hapart, Bool.false_and]
  exact Bool.false_ne_true

/-- Only the rules whose pattern can start with a word cover the operations that start with it. -/
theorem exists_covers_filter {word : String} {request : SandboxRequest}
    (h : Starts word request.operation) (rules : List ProfileRule) :
    (∃ rule ∈ rules, rule.covers request = true) ↔
      ∃ rule ∈ rules.filter fun rule => !patternApart rule.operation word,
        rule.covers request = true := by
  constructor
  · rintro ⟨rule, hrule, hcovers⟩
    refine ⟨rule, List.mem_filter.2 ⟨hrule, ?_⟩, hcovers⟩
    rw [Bool.not_eq_true']
    exact Bool.eq_false_of_not_eq_true fun hapart => not_covers_of_apart h hapart hcovers
  · rintro ⟨rule, hrule, hcovers⟩
    exact ⟨rule, (List.mem_filter.1 hrule).1, hcovers⟩

theorem exists_covers_append {rules more : List ProfileRule} {request : SandboxRequest} :
    (∃ rule ∈ rules ++ more, rule.covers request = true) ↔
      (∃ rule ∈ rules, rule.covers request = true) ∨ ∃ rule ∈ more, rule.covers request = true := by
  simp only [List.mem_append, or_and_right, exists_or]

/-- Rules for paths cover what the rule for one of the paths covers. -/
theorem exists_covers_paths {operation : String} {filter : String → Filter}
    {paths : List CanonicalPath} {request : SandboxRequest} :
    (∃ rule ∈ paths.map (pathRule operation filter), rule.covers request = true) ↔
      patternCovers operation request.operation = true ∧
        ∃ path ∈ paths, (filter path.text).admits request = true := by
  simp only [List.mem_map, exists_exists_and_eq_and, covers_pathRule]
  constructor
  · rintro ⟨path, hpath, hcovers, hadmits⟩
    exact ⟨hcovers, path, hpath, hadmits⟩
  · rintro ⟨hcovers, path, hpath, hadmits⟩
    exact ⟨path, hpath, hcovers, hadmits⟩

/-- Names that start with one word do not start with another that is no part of it. -/
theorem Starts.apart {word other operation : String} (h : Starts word operation)
    (hword : ¬Starts word other) (hother : ¬Starts other word) : ¬Starts other operation := by
  intro hstarts
  rcases List.prefix_or_prefix_of_prefix h hstarts with hearlier | hearlier
  · exact hword hearlier
  · exact hother hearlier

theorem covers_network {network : SandboxNetwork} {request : SandboxRequest} :
    (∃ rule ∈ (if network = .allowOutbound then [⟨.allow, "network-outbound", []⟩] else []),
      ProfileRule.covers rule request = true) ↔
        request.operation = "network-outbound" ∧ network = .allowOutbound := by
  have hcovers : ProfileRule.covers ⟨.allow, "network-outbound", []⟩ request = true ↔
      request.operation = "network-outbound" := by
    rw [covers_unfiltered, patternCovers_name (by decide) (by decide)]
  cases network with
  | deny => simp
  | allowOutbound => simp [hcovers]

/-- What the rules for the declared roots and the network cover. -/
theorem covers_declaredRules {writable readOnly : List CanonicalPath} {network : SandboxNetwork}
    {request : SandboxRequest} :
    (∃ rule ∈ declaredRules writable readOnly network, rule.covers request = true) ↔
      (Starts "file-read" request.operation ∧ ((∃ path ∈ rootAncestors (writable ++ readOnly),
          (Filter.literal path.text).admits request = true) ∨
        ∃ path ∈ writable ++ readOnly, (Filter.subpath path.text).admits request = true)) ∨
      (Starts "file-write" request.operation ∧
        ∃ path ∈ writable, (Filter.subpath path.text).admits request = true) ∨
      (request.operation = "network-outbound" ∧ network = .allowOutbound) := by
  have hread : patternCovers "file-read*" request.operation = true ↔
      Starts "file-read" request.operation := patternCovers_star "file-read" rfl
  have hwrite : patternCovers "file-write*" request.operation = true ↔
      Starts "file-write" request.operation := patternCovers_star "file-write" rfl
  rw [declaredRules, exists_covers_append, exists_covers_append, exists_covers_append,
    exists_covers_paths, exists_covers_paths, exists_covers_paths, covers_network, hread, hwrite,
    ← and_or_left, or_assoc]

/-! ### Files -/

def devNull : CanonicalPath := ⟨["dev", "null"], by decide⟩

/-- Declared roots grant reads of what is above or below them, and writes below the writable ones. -/
theorem covers_declaredRules_onFile {writable readOnly : List CanonicalPath} {network : SandboxNetwork}
    {operation : String} {path : CanonicalPath} {same : Bool} (h : Starts "file-" operation) :
    (∃ rule ∈ declaredRules writable readOnly network,
      rule.covers (onFile operation path same) = true) ↔
      (Starts "file-read" operation ∧ ∃ root ∈ writable ++ readOnly,
        CanonicalPath.Above path root ∨ CanonicalPath.Under root path) ∨
      (Starts "file-write" operation ∧ ∃ root ∈ writable, CanonicalPath.Under root path) := by
  have hnetwork : ¬(operation = "network-outbound" ∧ network = .allowOutbound) := by
    rintro ⟨rfl, _⟩
    exact absurd h (by decide)
  have habove : (∃ directory ∈ rootAncestors (writable ++ readOnly),
      (Filter.literal directory.text).admits (onFile operation path same) = true) ↔
        ∃ root ∈ writable ++ readOnly, CanonicalPath.Above path root := by
    simp only [admits_literal, exists_eq_right', mem_rootAncestors]
  have hunder : ∀ roots : List CanonicalPath, (∃ root ∈ roots,
      (Filter.subpath root.text).admits (onFile operation path same) = true) ↔
        ∃ root ∈ roots, CanonicalPath.Under root path := by
    intro roots
    simp only [admits_subpath]
  rw [covers_declaredRules, habove, hunder, hunder]
  simp only [onFile, hnetwork, or_false, and_or_left, exists_or]

/-- A strict profile permits writes to declared writable roots and to the null device. -/
theorem permits_write {writable readOnly : List CanonicalPath} {network : SandboxNetwork}
    {operation : String} (h : Starts "file-write" operation) (path : CanonicalPath) (same : Bool) :
    Permits (strictRules writable readOnly network) (onFile operation path same) ↔
      path = devNull ∨ ∃ root ∈ writable, CanonicalPath.Under root path := by
  have hfile : Starts "file-" operation := List.IsPrefix.trans (by decide) h
  have hread : ¬Starts "file-read" operation := h.apart (by decide) (by decide)
  have hkept : ambientRules.filter (fun rule => !patternApart rule.operation "file-write") =
      [pathRule "file-write*" .literal devNull] := by decide
  have hambient : (∃ rule ∈ ambientRules, rule.covers (onFile operation path same) = true) ↔
      path = devNull := by
    rw [exists_covers_filter h ambientRules, hkept]
    simp only [List.mem_singleton, exists_eq_left, covers_pathRule, admits_literal]
    exact and_iff_right ((patternCovers_star "file-write" rfl).2 h)
  rw [permits_strictRules, exists_covers_append, hambient, covers_declaredRules_onFile hfile]
  simp only [hread, h, false_and, true_and, false_or]

/-- The fixed rule for reads covers the root and the system directories. -/
def systemReads : ProfileRule :=
  ⟨.allow, "file-read*", .literal "/" :: systemDirectories.map Filter.subpath⟩

theorem covers_systemReads {operation : String} {path : CanonicalPath} {same : Bool}
    (h : Starts "file-read" operation) :
    systemReads.covers (onFile operation path same) = true ↔
      path = CanonicalPath.root ∨
        ∃ directory ∈ systemDirectories, pathComponents directory <+: path.components := by
  have hcovers : patternCovers "file-read*" operation = true :=
    (patternCovers_star "file-read" rfl).2 h
  have hroot : (Filter.literal "/").admits (onFile operation path same) = true ↔
      path = CanonicalPath.root := admits_literal CanonicalPath.root
  have hsystem : ((systemDirectories.map Filter.subpath).any fun filter =>
        filter.admits (onFile operation path same)) = true ↔
      ∃ directory ∈ systemDirectories, pathComponents directory <+: path.components := by
    rw [List.any_map, List.any_eq_true]
    simp only [Function.comp_apply, Filter.admits, onFile, Option.any_some,
      List.isPrefixOf_iff_prefix]
  rw [ProfileRule.covers, systemReads, Bool.and_eq_true]
  simp only [List.isEmpty_cons, Bool.false_or, List.any_cons, Bool.or_eq_true, hroot, hsystem]
  exact and_iff_right hcovers

/-- Everything may be asked for its metadata, and nothing else is read outside the declared and the
system directories. -/
theorem permits_read {writable readOnly : List CanonicalPath} {network : SandboxNetwork}
    {operation : String} (h : Starts "file-read" operation) (path : CanonicalPath) (same : Bool) :
    Permits (strictRules writable readOnly network) (onFile operation path same) ↔
      operation = "file-read-metadata" ∨ path = CanonicalPath.root ∨
        (∃ directory ∈ systemDirectories, pathComponents directory <+: path.components) ∨
          ∃ root ∈ writable ++ readOnly, CanonicalPath.Above path root ∨ CanonicalPath.Under root path := by
  have hfile : Starts "file-" operation := List.IsPrefix.trans (by decide) h
  have hwrite : ¬Starts "file-write" operation := h.apart (by decide) (by decide)
  have hkept : ambientRules.filter (fun rule => !patternApart rule.operation "file-read") =
      [⟨.allow, "file-read-metadata", []⟩, systemReads] := by decide
  have hmetadata : ProfileRule.covers ⟨.allow, "file-read-metadata", []⟩ (onFile operation path same) =
      true ↔ operation = "file-read-metadata" := by
    rw [covers_unfiltered, patternCovers_name (by decide) (by decide)]
    rfl
  have hambient : (∃ rule ∈ ambientRules, rule.covers (onFile operation path same) = true) ↔
      operation = "file-read-metadata" ∨ path = CanonicalPath.root ∨
        ∃ directory ∈ systemDirectories, pathComponents directory <+: path.components := by
    rw [exists_covers_filter h ambientRules, hkept]
    simp only [List.mem_cons, List.not_mem_nil, or_false, exists_eq_or_imp, exists_eq_left,
      hmetadata, covers_systemReads h]
  rw [permits_strictRules, exists_covers_append, hambient, covers_declaredRules_onFile hfile]
  simp only [hwrite, h, false_and, true_and, or_false, or_assoc]

/-! ### Network and processes -/

/-- A strict profile permits no use of the network but outbound traffic that was declared. -/
theorem permits_network {writable readOnly : List CanonicalPath} {network : SandboxNetwork}
    {request : SandboxRequest} (h : Starts "network" request.operation) :
    Permits (strictRules writable readOnly network) request ↔
      request.operation = "network-outbound" ∧ network = .allowOutbound := by
  have hread : ¬Starts "file-read" request.operation := h.apart (by decide) (by decide)
  have hwrite : ¬Starts "file-write" request.operation := h.apart (by decide) (by decide)
  have hkept : ambientRules.filter (fun rule => !patternApart rule.operation "network") = [] := by
    decide
  rw [permits_strictRules, exists_covers_append, exists_covers_filter h ambientRules, hkept,
    covers_declaredRules]
  simp only [hread, hwrite, List.not_mem_nil, false_and, exists_false, false_or]

/-- What a plugin may do besides using files and the network. -/
def AmbientOperation (request : SandboxRequest) : Prop :=
  Starts "process" request.operation ∨ (request.operation = "signal" ∧ request.sameSandbox = true) ∨
    request.operation = "sysctl-read" ∨ request.operation = "mach-lookup" ∨
    Starts "ipc-posix" request.operation

/-- Other operations are permitted whatever is declared, or not at all. -/
theorem permits_other {writable readOnly : List CanonicalPath} {network : SandboxNetwork}
    {request : SandboxRequest} (hfile : ¬Starts "file-" request.operation)
    (hnetwork : ¬Starts "network" request.operation) :
    Permits (strictRules writable readOnly network) request ↔ AmbientOperation request := by
  have hoperation : ∀ {name : String}, Starts "file-" name → request.operation ≠ name :=
    fun hname heq => hfile (heq ▸ hname)
  have hread : ¬Starts "file-read" request.operation := fun h =>
    hfile (List.IsPrefix.trans (by decide) h)
  have hwrite : ¬Starts "file-write" request.operation := fun h =>
    hfile (List.IsPrefix.trans (by decide) h)
  have houtbound : request.operation ≠ "network-outbound" := fun heq =>
    hnetwork (heq ▸ (by decide : Starts "network" "network-outbound"))
  have hmetadata : request.operation ≠ "file-read-metadata" := hoperation (by decide)
  have hreads : ¬patternCovers "file-read*" request.operation = true := by
    rwa [patternCovers_star "file-read" rfl]
  have hwrites : ¬patternCovers "file-write*" request.operation = true := by
    rwa [patternCovers_star "file-write" rfl]
  have hsignal : ProfileRule.covers ⟨.allow, "signal", [.target "same-sandbox"]⟩ request = true ↔
      request.operation = "signal" ∧ request.sameSandbox = true := by
    rw [ProfileRule.covers, Bool.and_eq_true, patternCovers_name (by decide) (by decide)]
    simp [Filter.admits]
  have hnull : ¬ProfileRule.covers ⟨.allow, "file-write*", [.literal "/dev/null"]⟩ request = true := by
    rw [ProfileRule.covers, Bool.and_eq_true]
    exact fun hboth => hwrites hboth.1
  have hsystem : ¬ProfileRule.covers ⟨.allow, "file-read*",
      .literal "/" :: systemDirectories.map Filter.subpath⟩ request = true := by
    rw [ProfileRule.covers, Bool.and_eq_true]
    exact fun hboth => hreads hboth.1
  have hprocess : patternCovers "process*" request.operation = true ↔
      Starts "process" request.operation := patternCovers_star "process" rfl
  have hposix : patternCovers "ipc-posix*" request.operation = true ↔
      Starts "ipc-posix" request.operation := patternCovers_star "ipc-posix" rfl
  have hsysctl : patternCovers "sysctl-read" request.operation = true ↔
      request.operation = "sysctl-read" := patternCovers_name (by decide) (by decide)
  have hmach : patternCovers "mach-lookup" request.operation = true ↔
      request.operation = "mach-lookup" := patternCovers_name (by decide) (by decide)
  have hstat : patternCovers "file-read-metadata" request.operation = true ↔
      request.operation = "file-read-metadata" := patternCovers_name (by decide) (by decide)
  rw [permits_strictRules, exists_covers_append, covers_declaredRules]
  simp only [hread, hwrite, houtbound, false_and, or_false]
  simp only [ambientRules, List.mem_cons, List.not_mem_nil, or_false, exists_eq_or_imp,
    exists_eq_left, covers_unfiltered, hsignal, hprocess, hsysctl, hmach, hposix, hstat, hmetadata,
    hnull, hsystem, Bool.false_eq_true]
  rfl

/-! ### Confined writes -/

def writeScopedRules (writable : List CanonicalPath) : List ProfileRule :=
  [⟨.allow, "default", []⟩, ⟨.deny, "file-write*", []⟩, pathRule "file-write*" .literal devNull] ++
    writable.map (pathRule "file-write*" .subpath)

theorem writeScopedPrelude_writes : WritesExprs writeScopedPrelude
    [versionExpr, ProfileRule.expr ⟨.allow, "default", []⟩, ProfileRule.expr ⟨.deny, "file-write*", []⟩,
      (pathRule "file-write*" .literal devNull).expr] := by
  have htext : writeScopedPrelude.toList =
      [versionExpr, ProfileRule.expr ⟨.allow, "default", []⟩,
        ProfileRule.expr ⟨.deny, "file-write*", []⟩,
        (pathRule "file-write*" .literal devNull).expr].flatMap fun e => e.render.toList ++ ['\n'] := by
    decide +kernel
  rw [WritesExprs, htext]
  exact lays_lines (by decide)

theorem readProfile_writeScopedProfile (writable : List CanonicalPath) :
    readProfile (writeScopedProfile writable) = some (writeScopedRules writable) :=
  readProfile_of_lays (pushRules_writes opensRule_subpathWrite writable writeScopedPrelude_writes)

/-- A write-scoped profile permits writes to the declared roots and to the null device, and
everything that is no write. -/
theorem permits_writeScopedRules {writable : List CanonicalPath} {request : SandboxRequest} :
    Permits (writeScopedRules writable) request ↔ ¬Starts "file-write" request.operation ∨
      (Filter.literal devNull.text).admits request = true ∨
      ∃ root ∈ writable, (Filter.subpath root.text).admits request = true := by
  have hwrites : ∀ rule ∈ pathRule "file-write*" .literal devNull ::
      writable.map (pathRule "file-write*" .subpath), rule.verdict = .allow := by
    intro rule hrule
    rcases List.mem_cons.1 hrule with rfl | hrule
    · rfl
    · obtain ⟨path, _, rfl⟩ := List.mem_map.1 hrule
      rfl
  have hdefault : ∀ rule ∈ [(⟨.allow, "default", []⟩ : ProfileRule)], rule.verdict = .allow := by
    decide
  have hall : Permits ([] ++ [⟨.allow, "default", []⟩]) request :=
    (grants_append_allow hdefault request).2 (.inr ⟨_, List.mem_singleton_self _, rfl⟩)
  have hdenied : Permits ([⟨.allow, "default", []⟩] ++ [⟨.deny, "file-write*", []⟩]) request ↔
      ¬Starts "file-write" request.operation := by
    rw [Permits, grants_concat_deny rfl, covers_unfiltered, Bool.eq_false_iff, ne_eq,
      patternCovers_star "file-write" rfl]
    exact and_iff_right hall
  have hrules : writeScopedRules writable = ([⟨.allow, "default", []⟩] ++
      [⟨.deny, "file-write*", []⟩]) ++ (pathRule "file-write*" .literal devNull ::
        writable.map (pathRule "file-write*" .subpath)) := rfl
  have hpattern : patternCovers "file-write*" request.operation = true ↔
      Starts "file-write" request.operation := patternCovers_star "file-write" rfl
  have hrestored : (∃ rule ∈ pathRule "file-write*" .literal devNull ::
      writable.map (pathRule "file-write*" .subpath), rule.covers request = true) ↔
        Starts "file-write" request.operation ∧
          ((Filter.literal devNull.text).admits request = true ∨
            ∃ root ∈ writable, (Filter.subpath root.text).admits request = true) := by
    rw [and_or_left, ← hpattern, ← covers_pathRule, ← exists_covers_paths]
    simp only [List.mem_cons, exists_eq_or_imp]
  rw [hrules]
  apply (grants_append_allow hwrites request).trans
  rw [hrestored]
  by_cases hstarts : Starts "file-write" request.operation
  · rw [and_iff_right hstarts]
    exact or_congr_left hdenied
  · rw [or_iff_left fun hboth => hstarts hboth.1]
    exact hdenied.trans (iff_of_true hstarts (.inl hstarts))

end Fleetd.PluginHost
