import CloudDiagram.Proofs.Terraform.Readable

/-!
# The code says what the diagram says

The contents of a diagram are what its code is made to say: for each readable node its
attributes, and for an instance also its id and the name of its network. Two things are
said in a coarser form than the diagram holds them. The tags of a resource are said as its
environment and its extra tags, as the settings ask; and a policy is said without the
newlines at its end.

Nothing of it gets lost on the way to the text. Printed blocks can be read in one way only,
and so can the items of a block: what is left out, is written in two ways or is repeated
stands under a name of its own. The name of an instance alone is ambiguous, as both parts of
it are free texts; but the same two parts are joined differently in its tags, and where
the two first differ, the name of the network ends.
-/

namespace CloudDiagram.Terraform

/-- What the tags of a resource say besides its name: the environment, which may be
that of the settings, and the extra tags, which the settings may leave out. -/
structure Labels where
  environment : String
  extra : List (String × String)
deriving DecidableEq, Repr

/-- The tags of a resource as they are said. Different tags may be said alike, for
example if one sets the environment that the settings have as their default. -/
def labels (settings : GeneratorSettings) (tags : Tags) : Labels :=
  ⟨environment settings tags, extraTags settings tags⟩

/-- What is said about a node. The attributes hold no tags, as these are said by the
labels. -/
inductive Content where
  | network (attributes : Network) (labels : Labels)
  | compute (network id : String) (attributes : Compute) (labels : Labels)
  | storage (attributes : Storage) (labels : Labels)
deriving DecidableEq

/-- The kind of the node that something is said about. It is shown by the type of
the block. -/
def Content.kind : Content → Kind
  | .network _ _ => .network
  | .compute _ _ _ _ => .compute
  | .storage _ _ => .storage

/-- What is said about a readable node; `network` names the network of an id. The
policy is trimmed, since newlines at its end are not written. -/
def content? (settings : GeneratorSettings) (network : String → String) (node : Node) :
    Option Content :=
  match node.payload with
  | .network attributes =>
    some (.network { attributes with tags := Table.empty } (labels settings attributes.tags))
  | .compute attributes =>
    some (.compute (network node.id) node.id { attributes with tags := Table.empty }
      (labels settings attributes.tags))
  | .storage attributes =>
    some (.storage
      { attributes with policy := attributes.policy.map trimNewlines, tags := Table.empty }
      (labels settings attributes.tags))
  | .unrecognized _ _ | .malformed _ => none

/-- What is said about the nodes of a diagram, in their order. It is stated without
the text of the code, so that the code can be compared with it. -/
def contents (settings : GeneratorSettings) (nodes : List Node) (edges : List Connection) :
    List Content :=
  nodes.filterMap (content? settings (networkName settings (.ofLists nodes edges) nodes))

/-- Something is said about a node of a kind, and it is said as about one of that
kind. About the other nodes nothing is said. -/
theorem kind_content? (settings : GeneratorSettings) (network : String → String) (node : Node) :
    (content? settings network node).map Content.kind = node.kind? := by
  rw [content?, Node.kind?]
  cases node.payload <;> rfl

/-- The contents of a diagram are one for each readable node, of the kind of the
node, and in the order of the nodes. -/
theorem kind_contents (settings : GeneratorSettings) (nodes : List Node)
    (edges : List Connection) :
    (contents settings nodes edges).map Content.kind = nodes.filterMap Node.kind? := by
  rw [contents, List.map_filterMap]
  exact List.filterMap_congr fun node _ => kind_content? settings _ node

/-- The items of a given name. An item that may be left out is either the only one
of its name or there is none, and volumes are several. -/
def said (name : String) (items : List Item) : List Item := items.filter (·.name = name)

/-- Items that share their name are found under it, and under no other. It covers
every part of what is said about a node. -/
theorem said_of_named {own : String} {items : List Item}
    (named : ∀ item ∈ items, item.name = own) (name : String) :
    said name items = if own = name then items else [] := by
  by_cases same : own = name
  · rw [if_pos same]
    refine List.filter_eq_self.mpr ?_
    intro item member
    exact decide_eq_true ((named item member).trans same)
  · rw [if_neg same]
    refine List.filter_eq_nil_iff.mpr ?_
    intro item member found
    exact same ((named item member).symm.trans (of_decide_eq_true found))

/-- Nothing is found where nothing is said. -/
@[simp] theorem said_nil (name : String) : said name [] = [] := rfl

/-- An item is found under its name, in front of those that stand behind it. With
`simp` it reduces a search in a list of named items to the items of that name. -/
@[simp] theorem said_cons (name : String) (item : Item) (items : List Item) :
    said name (item :: items) =
      if item.name = name then item :: said name items else said name items := by
  simp [said, List.filter_cons]

/-- What is said in parts is found part by part, in the order of the parts. -/
@[simp] theorem said_append (name : String) (first second : List Item) :
    said name (first ++ second) = said name first ++ said name second :=
  List.filter_append ..

/-- Something that may be left out is found under its name. It is one item or none,
and all of it has that name. -/
theorem said_optional {α : Type} {own : String} (item : α → Item)
    (named : ∀ value, (item value).name = own) (name : String) (value : Option α) :
    said name (value.map item).toList = if own = name then (value.map item).toList else [] := by
  refine said_of_named ?_ name
  intro written member
  obtain ⟨given, _, rfl⟩ := Option.map_eq_some_iff.mp (Option.mem_toList.mp member)
  exact named given

/-- A text that may be left out is found under its name. -/
@[simp] theorem said_optionalText (name own : String) (value : Option String) :
    said name (optionalText own value) = if own = name then optionalText own value else [] :=
  said_optional (fun text => .argument own (.text text)) (fun _ => rfl) name value

/-- A truth value that may be left out is found under its name. -/
@[simp] theorem said_optionalFlag (name own : String) (value : Option Bool) :
    said name (value.map fun set => .argument own (.flag set)).toList =
      if own = name then (value.map fun set => .argument own (.flag set)).toList else [] :=
  said_optional (fun set => .argument own (.flag set)) (fun _ => rfl) name value

/-- A document that may be left out is found under its name. -/
@[simp] theorem said_optionalDocument (name own : String) (value : Option String) :
    said name (value.map fun content => .document own content).toList =
      if own = name then (value.map fun content => .document own content).toList else [] :=
  said_optional (fun content => .document own content) (fun _ => rfl) name value

/-- A subnet is found under its name, in whichever of its forms it is written. -/
@[simp] theorem said_subnetItem (name subnet : String) :
    said name (subnetItem subnet) = if "subnet_id" = name then subnetItem subnet else [] := by
  refine said_of_named ?_ name
  intro item member
  unfold subnetItem at member
  split at member
  · cases member
  split at member
  · cases List.mem_singleton.mp member
    rfl
  · cases List.mem_singleton.mp member
    rfl

/-- Volumes are found under their name, all of them and in order. -/
@[simp] theorem said_devices (name : String) (devices : List BlockDevice) :
    said name (devices.map deviceItem) =
      if "ebs_block_device" = name then devices.map deviceItem else [] := by
  have named : ∀ item ∈ devices.map deviceItem, item.name = "ebs_block_device" :=
    List.forall_mem_map.mpr fun _ _ => rfl
  exact said_of_named named name

/-- An argument is found under its name. -/
@[simp] theorem Item.name_argument (name : String) (value : Expression) :
    (argument name value).name = name := rfl

/-- A nested list is found under its name. -/
@[simp] theorem Item.name_nested (name : String) (arguments : List (String × Expression)) :
    (nested name arguments).name = name := rfl

/-- The tags of a resource are found under their name. -/
@[simp] theorem name_tagsItem (settings : GeneratorSettings) (name : String) (tags : Tags) :
    (tagsItem settings name tags).name = "tags" := rfl

/-- A subnet is determined by what is said about it. An empty one is not said, and a
bare name is told from a quoted one by its form. -/
theorem subnetItem_inj {subnet other : String} (same : subnetItem subnet = subnetItem other) :
    subnet = other := by
  unfold subnetItem at same
  repeat' split at same
  all_goals simp_all

/-- What may be left out is determined, and so is whether it is. Nothing is said
exactly if there is no value. -/
theorem optional_inj {α : Type} {item : α → Item} (different : Function.Injective item)
    {value other : Option α} (same : (value.map item).toList = (other.map item).toList) :
    value = other := by
  cases value with
  | none =>
    cases other with
    | none => rfl
    | some given => cases same
  | some given =>
    cases other with
    | none => cases same
    | some given' => exact congrArg some (different (List.cons.inj same).1)

/-- A text that may be left out is determined, and so is whether it is. -/
theorem optionalText_inj {name : String} {value other : Option String}
    (same : optionalText name value = optionalText name other) : value = other :=
  optional_inj (fun _ _ equal => Expression.text.inj (Item.argument.inj equal).2) same

/-- Volumes are determined by what is said about them: each of the three arguments
of a volume holds one of its attributes. -/
theorem devices_inj {devices others : List BlockDevice}
    (same : devices.map deviceItem = others.map deviceItem) : devices = others := by
  refine List.map_injective_iff.mpr ?_ same
  intro first second equal
  cases first
  cases second
  simpa [deviceItem] using equal

/-- The name and the labels of a resource are determined by its tags. They are the
first two entries, and the extra tags are the others. -/
theorem tagsItem_inj {settings settings' : GeneratorSettings} {name other : String}
    {tags tags' : Tags} (same : tagsItem settings name tags = tagsItem settings' other tags') :
    name = other ∧ labels settings tags = labels settings' tags' := by
  simpa [tagsItem, labels] using same

/-- Two ways to continue a text show where it ends, if they differ at once. Wherever
the one text goes on while the other has ended, it would have to go on with both
marks. -/
theorem eq_of_two_marks {mark mark' : Char} (different : mark ≠ mark')
    {first second rest rest' others others' : List Char}
    (same : first ++ mark :: rest = second ++ mark :: others)
    (same' : first ++ mark' :: rest' = second ++ mark' :: others') : first = second := by
  induction first generalizing second with
  | nil =>
    cases second with
    | nil => rfl
    | cons c second =>
      have isMark := (List.cons.inj same).1
      have isMark' := (List.cons.inj same').1
      exact absurd (isMark.trans isMark'.symm) different
  | cons c first inductionHypothesis =>
    cases second with
    | nil =>
      have isMark := (List.cons.inj same).1
      have isMark' := (List.cons.inj same').1
      exact absurd (isMark.symm.trans isMark') different
    | cons d second =>
      obtain ⟨rfl, tails⟩ := List.cons.inj same
      rw [inductionHypothesis tails (List.cons.inj same').2]

/-- The name of an instance and the one in its tags determine its network and its
id. Each alone is ambiguous. They join the same two parts differently, and the first
place where they differ is the end of the network. -/
theorem placement_inj {network other id id' : String}
    (names : instanceName network id = instanceName other id')
    (tags : network ++ "-ec2-" ++ id = other ++ "-ec2-" ++ id') : network = other ∧ id = id' := by
  have underscored : network.toList ++ '_' :: ("ec2_".toList ++ id.toList) =
      other.toList ++ '_' :: ("ec2_".toList ++ id'.toList) := by
    simpa [instanceName] using congrArg String.toList names
  have dashed : network.toList ++ '-' :: ("ec2-".toList ++ id.toList) =
      other.toList ++ '-' :: ("ec2-".toList ++ id'.toList) := by
    simpa using congrArg String.toList tags
  obtain rfl := String.toList_inj.mp (eq_of_two_marks (by decide) underscored dashed)
  have ids := List.append_cancel_left (List.cons.inj (List.append_cancel_left underscored)).2
  exact ⟨rfl, String.toList_inj.mp ids⟩

/-- A network is determined by what is said about it, except for its tags, of which
only the labels are. -/
theorem networkItems_inj {settings settings' : GeneratorSettings} {attributes other : Network}
    (same : networkItems settings attributes = networkItems settings' other) :
    { attributes with tags := Table.empty } = { other with tags := Table.empty } ∧
      labels settings attributes.tags = labels settings' other.tags := by
  have found (name : String) := congrArg (said name) same
  have blocks : attributes.cidrBlock = other.cidrBlock := by
    simpa [networkItems] using found "cidr_block"
  have tags : tagsItem settings attributes.name attributes.tags =
      tagsItem settings' other.name other.tags := by
    simpa [networkItems] using found "tags"
  obtain ⟨names, tagged⟩ := tagsItem_inj tags
  refine ⟨?_, tagged⟩
  rw [names, blocks]

/-- An instance is determined by what is said about it, except for its tags. The
name in its tags joins the network and the id; what these are is seen only with the
address. -/
theorem computeItems_inj {settings settings' : GeneratorSettings} {network network' id id' : String}
    {attributes other : Compute} (same : computeItems settings network id attributes =
      computeItems settings' network' id' other) :
    { attributes with tags := Table.empty } = { other with tags := Table.empty } ∧
      network ++ "-ec2-" ++ id = network' ++ "-ec2-" ++ id' ∧
      labels settings attributes.tags = labels settings' other.tags := by
  have found (name : String) := congrArg (said name) same
  have images : attributes.machineImage = other.machineImage := by
    simpa [computeItems] using found "ami"
  have types : attributes.instanceType = other.instanceType := by
    simpa [computeItems] using found "instance_type"
  have subnets : subnetItem attributes.subnet = subnetItem other.subnet := by
    simpa [computeItems] using found "subnet_id"
  have groups : attributes.securityGroups = other.securityGroups := by
    simpa [computeItems] using found "vpc_security_group_ids"
  have profiles : optionalText "iam_instance_profile" attributes.instanceProfile =
      optionalText "iam_instance_profile" other.instanceProfile := by
    simpa [computeItems] using found "iam_instance_profile"
  have keys : optionalText "key_name" attributes.keyName =
      optionalText "key_name" other.keyName := by
    simpa [computeItems] using found "key_name"
  have devices : attributes.blockDevices.map deviceItem = other.blockDevices.map deviceItem := by
    simpa [computeItems] using found "ebs_block_device"
  have tags : tagsItem settings (network ++ "-ec2-" ++ id) attributes.tags =
      tagsItem settings' (network' ++ "-ec2-" ++ id') other.tags := by
    simpa [computeItems] using found "tags"
  obtain ⟨names, tagged⟩ := tagsItem_inj tags
  refine ⟨?_, names, tagged⟩
  rw [images, types, subnetItem_inj subnets, groups, optionalText_inj profiles,
    optionalText_inj keys, devices_inj devices]

/-- A bucket is determined by what is said about it, except for its tags. Every
attribute is found under a name of its own, so what is left out before it does not
shift it. -/
theorem storageItems_inj {settings settings' : GeneratorSettings} {attributes other : Storage}
    (same : storageItems settings attributes = storageItems settings' other) :
    { attributes with tags := Table.empty } = { other with tags := Table.empty } ∧
      labels settings attributes.tags = labels settings' other.tags := by
  have found (name : String) := congrArg (said name) same
  have buckets : attributes.bucketName = other.bucketName := by
    simpa [storageItems] using found "bucket"
  have forced : (attributes.forceDestroy.map fun set =>
      Item.argument "force_destroy" (.flag set)).toList =
      (other.forceDestroy.map fun set => Item.argument "force_destroy" (.flag set)).toList := by
    simpa [storageItems] using found "force_destroy"
  have controls : optionalText "acl" attributes.accessControl =
      optionalText "acl" other.accessControl := by
    simpa [storageItems] using found "acl"
  have versions : attributes.versioned = other.versioned := by
    simpa [storageItems] using found "versioning"
  have policies : (attributes.policy.map fun content => Item.document "policy" content).toList =
      (other.policy.map fun content => Item.document "policy" content).toList := by
    simpa [storageItems] using found "policy"
  have tags : tagsItem settings attributes.bucketName attributes.tags =
      tagsItem settings' other.bucketName other.tags := by
    simpa [storageItems] using found "tags"
  have flag : Function.Injective fun set => Item.argument "force_destroy" (.flag set) :=
    fun _ _ equal => Expression.flag.inj (Item.argument.inj equal).2
  have document : Function.Injective fun content => Item.document "policy" content :=
    fun _ _ equal => (Item.document.inj equal).2
  refine ⟨?_, (tagsItem_inj tags).2⟩
  rw [buckets, optional_inj flag forced, optionalText_inj controls, versions,
    optional_inj document policies]

/-- Nothing that is said about a network is trimmed, as no item of it is a document.
-/
theorem trimmed_networkItems (settings : GeneratorSettings) (attributes : Network) :
    (networkItems settings attributes).map Item.trimmed = networkItems settings attributes := rfl

/-- Nothing that is said about an instance is trimmed, as no item of it is a
document. The parts that may be left out are checked in each of their forms. -/
theorem trimmed_computeItems (settings : GeneratorSettings) (network id : String)
    (attributes : Compute) : (computeItems settings network id attributes).map Item.trimmed =
      computeItems settings network id attributes := by
  have optional (name : String) (value : Option String) :
      (optionalText name value).map Item.trimmed = optionalText name value := by
    cases value <;> rfl
  have subnet : (subnetItem attributes.subnet).map Item.trimmed = subnetItem attributes.subnet := by
    unfold subnetItem
    repeat' split
    all_goals rfl
  have devices : (attributes.blockDevices.map deviceItem).map Item.trimmed =
      attributes.blockDevices.map deviceItem := List.map_map
  simp only [computeItems, List.map_append, optional, subnet, devices]
  rfl

/-- What is said about a bucket is trimmed to what is said with its policy trimmed.
-/
theorem trimmed_storageItems (settings : GeneratorSettings) (attributes : Storage) :
    (storageItems settings attributes).map Item.trimmed =
      storageItems settings { attributes with policy := attributes.policy.map trimNewlines } := by
  cases attributes with
  | mk bucketName versioned forceDestroy accessControl policy tags =>
    cases forceDestroy <;> cases accessControl <;> cases policy <;> rfl

/-- Two nodes with the same trimmed block have the same contents. The type of the
block shows the kind of the node, so only nodes of one kind have to be compared. -/
theorem content?_of_block? {settings settings' : GeneratorSettings}
    {network network' : String → String} {node other : Node}
    (same : (block? settings network node).map Block.trimmed =
      (block? settings' network' other).map Block.trimmed) :
    content? settings network node = content? settings' network' other := by
  obtain ⟨id, payload, position⟩ := node
  obtain ⟨id', payload', position'⟩ := other
  cases payload with
  | network attributes =>
    cases payload' with
    | network attributes' =>
      have items := congrArg Block.items (Option.some.inj same)
      simp only [Block.trimmed, trimmed_networkItems] at items
      obtain ⟨written, tags⟩ := networkItems_inj items
      exact congrArg some (congrArg₂ Content.network written tags)
    | compute _ | storage _ => simp [block?, Block.trimmed] at same
    | unrecognized _ _ | malformed _ => simp [block?] at same
  | compute attributes =>
    cases payload' with
    | compute attributes' =>
      have blocks := Option.some.inj same
      -- neither the name nor the tag alone tells network and id apart, but both together do
      have names : instanceName (network id) id = instanceName (network' id') id' :=
        congrArg (fun block : Block => block.address.name) blocks
      have items := congrArg Block.items blocks
      simp only [Block.trimmed, trimmed_computeItems] at items
      obtain ⟨written, tagged, tags⟩ := computeItems_inj items
      obtain ⟨networks, rfl⟩ := placement_inj names tagged
      simp only [content?, written, tags, networks]
    | network _ | storage _ => simp [block?, Block.trimmed] at same
    | unrecognized _ _ | malformed _ => simp [block?] at same
  | storage attributes =>
    cases payload' with
    | storage attributes' =>
      have items := congrArg Block.items (Option.some.inj same)
      simp only [Block.trimmed, trimmed_storageItems] at items
      obtain ⟨written, tags⟩ := storageItems_inj items
      exact congrArg some (congrArg₂ Content.storage written tags)
    | network _ | compute _ => simp [block?, Block.trimmed] at same
    | unrecognized _ _ | malformed _ => simp [block?] at same
  | unrecognized tag fields =>
    cases payload' with
    | unrecognized _ _ | malformed _ => rfl
    | network _ | compute _ | storage _ => simp [block?] at same
  | malformed value =>
    cases payload' with
    | unrecognized _ _ | malformed _ => rfl
    | network _ | compute _ | storage _ => simp [block?] at same

/-- Nothing is said about a node that has no block: both are missing exactly for
nodes of no kind. -/
theorem content?_of_no_block {settings : GeneratorSettings} {network : String → String}
    {node : Node} (silent : block? settings network node = none) :
    content? settings network node = none := by
  rw [block?] at silent
  rw [content?]
  cases payload : node.payload <;> simp_all

/-- Two lists with the same results have the same further results, if each of these
is determined by the result it stands beside. The induction skips on either side
what has no result, since it has no further result either. -/
theorem filterMap_eq_of_filterMap_eq {α β γ δ : Type} {first : α → Option γ}
    {second : β → Option γ} {further : α → Option δ} {further' : β → Option δ}
    (determined : ∀ thing other, first thing = second other → further thing = further' other)
    (silent : ∀ thing, first thing = none → further thing = none)
    (silent' : ∀ other, second other = none → further' other = none)
    {things : List α} {others : List β}
    (same : things.filterMap first = others.filterMap second) :
    things.filterMap further = others.filterMap further' := by
  induction things generalizing others with
  | nil =>
    have none : ∀ other ∈ others, second other = none := List.filterMap_eq_nil_iff.mp same.symm
    exact (List.filterMap_eq_nil_iff.mpr fun other member => silent' other (none other member)).symm
  | cons thing things inductionHypothesis =>
    cases result : first thing with
    | none =>
      rw [List.filterMap_cons_none result] at same
      rw [List.filterMap_cons_none (silent thing result), inductionHypothesis same]
    | some shown =>
      rw [List.filterMap_cons_some result] at same
      obtain ⟨skipped, other, rest, rfl, none, shows, behind⟩ :=
        List.filterMap_eq_cons_iff.mp same.symm
      have passed : skipped.filterMap further' = [] :=
        List.filterMap_eq_nil_iff.mpr fun other member => silent' other (none other member)
      rw [List.filterMap_append, passed, List.nil_append, List.filterMap_cons, List.filterMap_cons,
        determined thing other (result.trans shows.symm), inductionHypothesis behind.symm]

/-- The code of a diagram without a marked policy is unambiguous. Whatever two such
diagrams and their settings are, if their codes are equal, so are the kinds of their
readable nodes and all that is said about them, in the order of the nodes.

Proof: equal codes are printed for equal trimmed blocks, since well-formed blocks
can be read in one way only. A block determines what is said about its node, and a
node without a block has nothing said about it. The kinds are part of what is said.
-/
theorem generate_unambiguous {settings settings' : GeneratorSettings} {nodes nodes' : List Node}
    {edges edges' : List Connection} (unmarked : Unmarked nodes) (unmarked' : Unmarked nodes')
    (same : generate settings nodes edges = generate settings' nodes' edges') :
    nodes.filterMap Node.kind? = nodes'.filterMap Node.kind? ∧
      contents settings nodes edges = contents settings' nodes' edges' := by
  have printed : printBlocks ((blocks settings nodes edges).map Block.trimmed) =
      printBlocks ((blocks settings' nodes' edges').map Block.trimmed) := by
    rw [printBlocks_trimmed, printBlocks_trimmed]
    exact same
  have trimmed := printBlocks_inj (blocks_wellFormed settings edges unmarked)
    (blocks_wellFormed settings' edges' unmarked') printed
  have told : contents settings nodes edges = contents settings' nodes' edges' := by
    rw [blocks, blocks, List.map_filterMap, List.map_filterMap] at trimmed
    refine filterMap_eq_of_filterMap_eq (fun node other => content?_of_block?) ?_ ?_ trimmed
    · intro node silent
      exact content?_of_no_block (Option.map_eq_none_iff.mp silent)
    · intro node silent
      exact content?_of_no_block (Option.map_eq_none_iff.mp silent)
  refine ⟨?_, told⟩
  rw [← kind_contents settings nodes edges, told, kind_contents]

/-- A diagram with a bucket and an instance has the code of another one, whose
settings name another environment, whose nodes set their own, whose policy ends
without newlines and which has a node that cannot be read. What is said is the same.
-/
theorem unambiguous_environments :
    let tags : Tags := Table.ofList [("Environment", "production")]
    let instances : Compute := { instanceType := "t3.micro", machineImage := "ami-1" }
    let nodes : List Node := [
      { id := "s", payload := .storage { bucketName := "b", policy := some "\x7b\x7d\n\n" } },
      { id := "i", payload := .compute instances }]
    let nodes' : List Node := [
      { id := "m", payload := .malformed .null },
      { id := "s", payload := .storage { bucketName := "b", policy := some "\x7b\x7d", tags } },
      { id := "i", payload := .compute { instances with tags } }]
    let settings : GeneratorSettings := { environment := "staging" }
    Unmarked nodes ∧ Unmarked nodes' ∧ generate {} nodes [] = generate settings nodes' [] ∧
      nodes.filterMap Node.kind? = nodes'.filterMap Node.kind? ∧
      contents {} nodes [] = contents settings nodes' [] := by
  intro tags instances nodes nodes' settings
  have unmarked : Unmarked nodes := by decide
  have unmarked' : Unmarked nodes' := by decide
  have trimmed : (blocks {} nodes []).map Block.trimmed =
      (blocks settings nodes' []).map Block.trimmed := by
    decide
  have same : generate {} nodes [] = generate settings nodes' [] := by
    rw [generate, generate, ← printBlocks_trimmed, trimmed, printBlocks_trimmed]
  exact ⟨unmarked, unmarked', same, generate_unambiguous unmarked unmarked' same⟩

end CloudDiagram.Terraform
