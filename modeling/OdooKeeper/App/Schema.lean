import OdooKeeper.Json.Schema
import OdooKeeper.Object

/-! # The definition of apps

What an API server has to know about apps before it can store them: their names, and a schema of
their fields with the value of each field that may be left out. -/

namespace OdooKeeper

open Json

namespace App.Schema

/-! ## Fields -/

/-- A text with a value for when it is left out. -/
def text (default : String) : Json.Schema := .text none { default := some (.string default) }

def text? (description : Option String) : Json.Schema := .orNull (.text none { description })

/-- A truth value with one for when it is left out. -/
def truth (default : Bool) : Json.Schema := .truth { default := some (.bool default) }

/-- A 32-bit integer with a value for when it is left out. -/
def int32 (default : Int32) : Json.Schema :=
  .integer "int32" none { default := some (ofInt32 default) }

/-- A 64-bit integer with a value for when it is left out. -/
def int64 (default : Int64) : Json.Schema :=
  .integer "int64" none { default := some (ofInt64 default) }

def texts (least : Option Nat) (remarks : Remarks) : Json.Schema :=
  .list (.text none {}) least remarks

/-! ## Settings -/

/-- A reference to a secret, which may be absent. -/
def secretRef : Json.Schema :=
  .orNull <| .record [("key", .text none {}), ("name", .text none {})] ["key", "name"]
    { description := some "Points at one key of a Secret in the App Deployment's namespace." }

def database : Json.Schema :=
  let d : DatabaseSettings := {}
  .record
    [("host", text d.host), ("hostFromSecret", secretRef),
      ("maxConn", int32 d.maxConn), ("maxConnFromSecret", secretRef),
      ("name", text d.name), ("nameFromSecret", secretRef),
      ("password", text? (some "Plain-text password. Prefer `passwordFromSecret`.")),
      ("passwordFromSecret", secretRef),
      ("port", int32 d.port), ("portFromSecret", secretRef),
      ("ssl", truth d.ssl), ("sslFromSecret", secretRef),
      ("user", text d.user), ("userFromSecret", secretRef)]
    []
    { default := some d.toJson
      description := some <| "Database connection settings. Every field is a literal with an " ++
        "optional `*FromSecret` override." }

def runtime : Json.Schema :=
  let r : RuntimeSettings := {}
  .record
    [("adminPasswordSecretName",
        text? (some
          "Secret holding the admin (database manager) password. Generated when unset.")),
      ("dataDir", text r.dataDir),
      ("debugMode", truth r.debugMode),
      ("limitMemoryHard", int64 r.limitMemoryHard),
      ("limitMemorySoft", int64 r.limitMemorySoft),
      ("limitRequest", int32 r.limitRequest),
      ("limitTimeCpu", int32 r.limitTimeCpu),
      ("limitTimeReal", int32 r.limitTimeReal),
      ("proxyMode", truth r.proxyMode),
      ("withoutDemo", truth r.withoutDemo),
      ("workers", int32 r.workers)]
    []
    { default := some r.toJson, description := some "Runtime settings rendered into `odoo.conf`." }

def quantityDescription : String :=
  "Quantity is a fixed-point representation of a number. It provides convenient " ++
    "marshaling/unmarshaling in JSON and YAML, in addition to String() and AsInt64() " ++
    "accessors.\n\n" ++
    "The serialization format is:\n\n" ++
    "``` <quantity>        ::= <signedNumber><suffix>\n\n" ++
    "\t(Note that <suffix> may be empty, from the \"\" case in <decimalSI>.)\n\n" ++
    "<digit>           ::= 0 | 1 | ... | 9 <digits>          ::= <digit> | " ++
    "<digit><digits> <number>          ::= <digits> | <digits>.<digits> | <digits>. | " ++
    ".<digits> <sign>            ::= \"+\" | \"-\" <signedNumber>    ::= <number> | " ++
    "<sign><number> <suffix>          ::= <binarySI> | <decimalExponent> | <decimalSI> " ++
    "<binarySI>        ::= Ki | Mi | Gi | Ti | Pi | Ei\n\n" ++
    "\t(International System of units; See: " ++
    "http://physics.nist.gov/cuu/Units/binary.html)\n\n" ++
    "<decimalSI>       ::= m | \"\" | k | M | G | T | P | E\n\n" ++
    "\t(Note that 1024 = 1Ki but 1000 = 1k; I didn't choose the capitalization.)\n\n" ++
    "<decimalExponent> ::= \"e\" <signedNumber> | \"E\" <signedNumber> ```\n\n" ++
    "No matter which of the three exponent forms is used, no quantity may represent a " ++
    "number greater than 2^63-1 in magnitude, nor may it have more than 3 decimal " ++
    "places. Numbers larger or more precise will be capped or rounded up. (E.g.: 0.1m " ++
    "will rounded up to 1m.) This may be extended in the future if we require larger or " ++
    "smaller quantities.\n\n" ++
    "When a Quantity is parsed from a string, it will remember the type of suffix it " ++
    "had, and will use the same type again when it is serialized.\n\n" ++
    "Before serializing, Quantity will be put in \"canonical form\". This means that " ++
    "Exponent/suffix will be adjusted up or down (with a corresponding increase or " ++
    "decrease in Mantissa) such that:\n\n" ++
    "- No precision is lost - No fractional digits will be emitted - The exponent (or " ++
    "suffix) is as large as possible.\n\n" ++
    "The sign will be omitted unless the number is negative.\n\n" ++
    "Examples:\n\n" ++
    "- 1.5 will be serialized as \"1500m\" - 1.5Gi will be serialized as \"1536Mi\"\n\n" ++
    "Note that the quantity will NEVER be internally represented by a floating point " ++
    "number. That is the whole point of this exercise.\n\n" ++
    "Non-canonical values will still parse as long as they are well formed, but will be " ++
    "re-emitted in their canonical form. (So always use canonical form, or don't " ++
    "diff.)\n\n" ++
    "This format is intended to make it difficult to use these numbers without writing " ++
    "some sort of special handling code in the hopes that that will cause implementors " ++
    "to also use a fixed point implementation."

def filestore : Json.Schema :=
  let f : FilestoreSettings := {}
  .record
    [("accessModes", texts none { default := some (ofTexts f.accessModes) }),
      ("createIfNotExists", truth f.createIfNotExists),
      ("name", text? none),
      ("size",
        .text none
          { default := some (.string f.size), description := some quantityDescription }),
      ("storageClassName", text? none)]
    [] { default := some f.toJson }

def spec : Json.Schema :=
  let s : App.Spec := {}
  .record
    [("config", runtime),
      ("database", database),
      ("image", text s.image),
      ("imagePullPolicy", text s.imagePullPolicy),
      ("modules",
        texts (some 1)
          { default := some (ofTexts s.modules)
            description := some "Modules the database is initialised with." }),
      ("name",
        .text none
          { default := some (.string s.name)
            description := some
              "Display name. Dependent object names derive from `metadata.name`." }),
      ("odooFilestore", filestore),
      ("replicas", .integer "int32" (some 1) { default := some (ofInt32 s.replicas) })]
    [] {}

/-! ## Status -/

def condition : Json.Schema :=
  let described (format : Option String) (description : String) : Json.Schema :=
    .text format { description := some description }
  .record
    [("lastTransitionTime",
        described (some "date-time") <|
          "lastTransitionTime is the last time the condition transitioned from one status to " ++
          "another. This should be when the underlying condition changed.  If that is not " ++
          "known, then using the time when the API field changed is acceptable."),
      ("message",
        described none <|
          "message is a human readable message indicating details about the transition. This " ++
          "may be an empty string."),
      ("observedGeneration",
        .integer "int64" none
          { description := some <|
              "observedGeneration represents the .metadata.generation that the condition was " ++
              "set based upon. For instance, if .metadata.generation is currently 12, but the " ++
              ".status.conditions[x].observedGeneration is 9, the condition is out of date with " ++
              "respect to the current state of the instance." }),
      ("reason",
        described none <|
          "reason contains a programmatic identifier indicating the reason for the condition's " ++
          "last transition. Producers of specific condition types may define expected values " ++
          "and meanings for this field, and whether the values are considered a guaranteed " ++
          "API. The value should be a CamelCase string. This field may not be empty."),
      ("status", described none "status of the condition, one of True, False, Unknown."),
      ("type", described none "type of condition in CamelCase or in foo.example.com/CamelCase.")]
    ["lastTransitionTime", "message", "reason", "status", "type"]
    { description := some <|
        "Condition contains details for one aspect of the current state of this API Resource." }

def jobRecord : Json.Schema :=
  let r : JobRecord := {}
  .record
    [("jobNamespace", text r.ns), ("modules", texts none {}), ("name", text r.name)]
    []
    { default := some r.toJson
      description := some "The init job currently in flight. An empty name means idle." }

/-- The status of an app, which may be absent. -/
def status : Json.Schema :=
  let s : App.Status := {}
  .orNull <| .record
    [("conditions",
        .list condition none { default := some (ofList Condition.toJson s.conditions) }),
      ("currentInitJob", jobRecord),
      ("initModulesInstalled", texts none { default := some (ofTexts s.installed) }),
      ("odooAdminSecretName", text? none),
      ("odooConfigSecretName", text? none),
      ("odooDataPvcName", text? none)]
    [] {}

/-! ## The definition -/

def whole : Json :=
  let description := "Auto-generated derived type for OdooDeploymentSpec via `CustomResource`"
  record
    [("description", some (.string description)),
      ("properties", some (.object [("spec", spec.toJson), ("status", status.toJson)])),
      ("required", some (ofTexts ["spec"])),
      ("title", some (.string Kind.app.name)),
      ("type", some (.string "object"))]

/-- A column that is shown when apps are listed. -/
def column (name type path : String) : Json :=
  .object [("jsonPath", .string path), ("name", .string name), ("type", .string type)]

def version : Json :=
  .object
    [("additionalPrinterColumns",
        .array
          [column "Replicas" "integer" ".spec.replicas", column "Image" "string" ".spec.image",
            column "Age" "date" ".metadata.creationTimestamp"]),
      ("name", .string Kind.app.version),
      ("schema", .object [("openAPIV3Schema", whole)]),
      ("served", .bool true),
      ("storage", .bool true),
      ("subresources", .object [("status", .object [])])]

def singular : String := Text.lowerAscii Kind.app.name

def names : Json :=
  .object
    [("categories", .array []),
      ("kind", .string Kind.app.name),
      ("plural", .string (singular ++ "s")),
      ("shortNames", ofTexts ["odoo"]),
      ("singular", .string singular)]

def definition : Json :=
  .object
    [("apiVersion", .string "apiextensions.k8s.io/v1"),
      ("kind", .string "CustomResourceDefinition"),
      ("metadata", .object [("name", .string (singular ++ "s." ++ Kind.app.group))]),
      ("spec",
        .object
          [("group", .string Kind.app.group),
            ("names", names),
            ("scope", .string "Namespaced"),
            ("versions", .array [version])])]

end App.Schema

end OdooKeeper
