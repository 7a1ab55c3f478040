import Clouditor.MetricPolicies
import Clouditor.RegoRules
import Mathlib.Order.Lattice

/-! The classes of resources in the ontology with their fields, the JSON that is made of a
resource for the policies, and what can be found in it. -/
namespace Clouditor
set_option autoImplicit false

open Rego

section Classes

/-- The names of fields, of all that a resource can contain and of what policies look for
besides, in the order of the texts. -/
inductive OntologyKey where
  | abac | accessRestriction | activated | activityLogging | algorithm | anomalyDetection
  | anomalyDetections | apiHitsPerMonth | applicationId | applicationLogging | atRestEncryption
  | authenticationMechanism | authenticities | authenticity | authorization | automaticUpdates
  | backup | backups | blockStorageIds | bootLogging | broadAssignments | call | calls
  | certificateBasedAuthentication | cipherSuite | cipherSuites | computeId | containerIds
  | contextIsChecked | creationTime | credentialIds | customerKeyEncryption | dDoSProtection
  | databaseConnect | databaseQuery | databaseServiceIds | databaseStorageId | daysSinceActive
  | disablePasswordPolicy | enabled | encryptionInUse | enforceMfa | enforced | expirationDate
  | filename | functionalities | geoLocation | geoLocations | geoRedundancy | handler
  | httpEndpoint | httpEndpoints | httpRequest | httpRequestHandler | id | imageId | immutability
  | inbound | internetAccessibleEndpoint | interval | ips | isManaged | keyExchangeAlgorithm
  | keySize | keyUrl | l3Firewall | labels | lastActivity | localRedundancy | logOperation
  | logging | loggingService | loggingServiceIds | loginDefenderEnabled | macAlgorithm
  | malwareProtection | managedKeyEncryption | managementUrl | method | mixedDuties | modify
  | monitoringEnabled | multiFactorAuthentiation | name | networkInterfaceIds | networkServiceId
  | networkServiceIds | noAuthentication | notBeforeDate | numberOfThreatsFound | numberOfUsages
  | objectStorageIds | objectStorageRequest | osLogging | otpBasedAuthentication | parentId
  | passwordBasedAuthentication | path | ports | privileged | programmingLanguage | protocol
  | protocolVersion | publicAccess | rBAC | raw | rbac | redundancies | redundancy | region
  | reqBody | resourceLogging | restrictedPorts | retentionPeriod | runtimeLanguage
  | runtimeVersion | scope | securityAlertsEnabled | securityFeatures | securityOnly
  | sessionCipher | singleSignOn | source | storageId | storageIds | tlsVersion
  | tokenBasedAuthentication | translationUnits | transportEncryption | type | url
  | usageStatistics | value | vulnerabilities | webApplicationFirewall | zoneRedundancy
  deriving DecidableEq

def OntologyKey.jsonName : OntologyKey → String
  | .abac => "abac" | .accessRestriction => "accessRestriction" | .activated => "activated"
  | .activityLogging => "activityLogging" | .algorithm => "algorithm"
  | .anomalyDetection => "anomalyDetection" | .anomalyDetections => "anomalyDetections"
  | .apiHitsPerMonth => "apiHitsPerMonth" | .applicationId => "applicationId"
  | .applicationLogging => "applicationLogging" | .atRestEncryption => "atRestEncryption"
  | .authenticationMechanism => "authenticationMechanism" | .authenticities => "authenticities"
  | .authenticity => "authenticity" | .authorization => "authorization"
  | .automaticUpdates => "automaticUpdates" | .backup => "backup" | .backups => "backups"
  | .blockStorageIds => "blockStorageIds" | .bootLogging => "bootLogging"
  | .broadAssignments => "broadAssignments" | .call => "call" | .calls => "calls"
  | .certificateBasedAuthentication => "certificateBasedAuthentication"
  | .cipherSuite => "cipherSuite" | .cipherSuites => "cipherSuites" | .computeId => "computeId"
  | .containerIds => "containerIds" | .contextIsChecked => "contextIsChecked"
  | .creationTime => "creationTime" | .credentialIds => "credentialIds"
  | .customerKeyEncryption => "customerKeyEncryption" | .dDoSProtection => "dDoSProtection"
  | .databaseConnect => "databaseConnect" | .databaseQuery => "databaseQuery"
  | .databaseServiceIds => "databaseServiceIds" | .databaseStorageId => "databaseStorageId"
  | .daysSinceActive => "daysSinceActive" | .disablePasswordPolicy => "disablePasswordPolicy"
  | .enabled => "enabled" | .encryptionInUse => "encryptionInUse" | .enforceMfa => "enforceMfa"
  | .enforced => "enforced" | .expirationDate => "expirationDate" | .filename => "filename"
  | .functionalities => "functionalities" | .geoLocation => "geoLocation"
  | .geoLocations => "geoLocations" | .geoRedundancy => "geoRedundancy" | .handler => "handler"
  | .httpEndpoint => "httpEndpoint" | .httpEndpoints => "httpEndpoints"
  | .httpRequest => "httpRequest" | .httpRequestHandler => "httpRequestHandler" | .id => "id"
  | .imageId => "imageId" | .immutability => "immutability" | .inbound => "inbound"
  | .internetAccessibleEndpoint => "internetAccessibleEndpoint" | .interval => "interval"
  | .ips => "ips" | .isManaged => "isManaged" | .keyExchangeAlgorithm => "keyExchangeAlgorithm"
  | .keySize => "keySize" | .keyUrl => "keyUrl" | .l3Firewall => "l3Firewall"
  | .labels => "labels" | .lastActivity => "lastActivity" | .localRedundancy => "localRedundancy"
  | .logOperation => "logOperation" | .logging => "logging" | .loggingService => "loggingService"
  | .loggingServiceIds => "loggingServiceIds" | .loginDefenderEnabled => "loginDefenderEnabled"
  | .macAlgorithm => "macAlgorithm" | .malwareProtection => "malwareProtection"
  | .managedKeyEncryption => "managedKeyEncryption" | .managementUrl => "managementUrl"
  | .method => "method" | .mixedDuties => "mixedDuties" | .modify => "modify"
  | .monitoringEnabled => "monitoringEnabled"
  | .multiFactorAuthentiation => "multiFactorAuthentiation" | .name => "name"
  | .networkInterfaceIds => "networkInterfaceIds" | .networkServiceId => "networkServiceId"
  | .networkServiceIds => "networkServiceIds" | .noAuthentication => "noAuthentication"
  | .notBeforeDate => "notBeforeDate" | .numberOfThreatsFound => "numberOfThreatsFound"
  | .numberOfUsages => "numberOfUsages" | .objectStorageIds => "objectStorageIds"
  | .objectStorageRequest => "objectStorageRequest" | .osLogging => "osLogging"
  | .otpBasedAuthentication => "otpBasedAuthentication" | .parentId => "parentId"
  | .passwordBasedAuthentication => "passwordBasedAuthentication" | .path => "path"
  | .ports => "ports" | .privileged => "privileged"
  | .programmingLanguage => "programmingLanguage" | .protocol => "protocol"
  | .protocolVersion => "protocolVersion" | .publicAccess => "publicAccess" | .rBAC => "rBAC"
  | .raw => "raw" | .rbac => "rbac" | .redundancies => "redundancies"
  | .redundancy => "redundancy" | .region => "region" | .reqBody => "reqBody"
  | .resourceLogging => "resourceLogging" | .restrictedPorts => "restrictedPorts"
  | .retentionPeriod => "retentionPeriod" | .runtimeLanguage => "runtimeLanguage"
  | .runtimeVersion => "runtimeVersion" | .scope => "scope"
  | .securityAlertsEnabled => "securityAlertsEnabled" | .securityFeatures => "securityFeatures"
  | .securityOnly => "securityOnly" | .sessionCipher => "sessionCipher"
  | .singleSignOn => "singleSignOn" | .source => "source" | .storageId => "storageId"
  | .storageIds => "storageIds" | .tlsVersion => "tlsVersion"
  | .tokenBasedAuthentication => "tokenBasedAuthentication"
  | .translationUnits => "translationUnits" | .transportEncryption => "transportEncryption"
  | .type => "type" | .url => "url" | .usageStatistics => "usageStatistics" | .value => "value"
  | .vulnerabilities => "vulnerabilities" | .webApplicationFirewall => "webApplicationFirewall"
  | .zoneRedundancy => "zoneRedundancy"

/-- The classes that are parts of resources. -/
inductive FeatureClass where
  | abac | accessRestriction | activityLogging | anomalyDetection | applicationLogging
  | atRestEncryption | authenticity | authorization | automaticUpdates | backup | bootLogging
  | certificateBasedAuthentication | cipherSuite | customerKeyEncryption | dDoSProtection
  | databaseConnect | databaseQuery | encryptionInUse | functionality | geoLocation
  | geoRedundancy | httpEndpoint | httpRequest | httpRequestHandler | immutability | l3Firewall
  | localRedundancy | logOperation | logging | malwareProtection | managedKeyEncryption
  | multiFactorAuthentiation | noAuthentication | objectStorageRequest | osLogging
  | otpBasedAuthentication | passwordBasedAuthentication | rbac | redundancy | resourceLogging
  | securityFeature | singleSignOn | tokenBasedAuthentication | transportEncryption
  | usageStatistics | webApplicationFirewall | zoneRedundancy
  deriving DecidableEq

/-- The classes of resources themselves. -/
inductive ResourceClass where
  | account | application | blockStorage | certificate | container | containerImage
  | containerOrchestration | containerRegistry | databaseStorage | deviceProvisioningService
  | document | documentDatabaseService | fileStorage | fileStorageService | function
  | genericNetworkService | identity | job | key | keyValueDatabaseService | keyVault
  | loadBalancer | loggingService | messagingHub | multiModalDatabaseService | networkInterface
  | networkSecurityGroup | objectStorage | objectStorageService | passwordPolicy
  | relationalDatabaseService | resourceGroup | roleAssignment | secret | virtualMachine
  | virtualNetwork | virtualSubNetwork | vmImage | webApp | workflow
  deriving DecidableEq

inductive FieldType where
  | bool
  | int
  | float
  | text
  | timestamp
  | duration
  /-- A map from texts to texts. -/
  | labels
  | message (c : FeatureClass)
  deriving DecidableEq

inductive Cardinality where
  | single
  | optional
  | repeated

structure OntologyField where
  key : OntologyKey
  type : FieldType
  cardinality : Cardinality

namespace OntologyField

def one (key : OntologyKey) (type : FieldType) : OntologyField := ⟨key, type, .single⟩

def maybe (key : OntologyKey) (type : FieldType) : OntologyField := ⟨key, type, .optional⟩

def many (key : OntologyKey) (type : FieldType) : OntologyField := ⟨key, type, .repeated⟩

def part (key : OntologyKey) (c : FeatureClass) : OntologyField := ⟨key, .message c, .single⟩

def parts (key : OntologyKey) (c : FeatureClass) : OntologyField := ⟨key, .message c, .repeated⟩

end OntologyField

def loggingFields : List OntologyField :=
  [.one .enabled .bool, .one .monitoringEnabled .bool, .one .retentionPeriod .duration,
  .one .securityAlertsEnabled .bool, .many .loggingServiceIds .text]

def redundancyFields : List OntologyField :=
  [.parts .geoLocations .geoLocation]

def keyEncryptionFields : List OntologyField :=
  [.one .algorithm .text, .one .enabled .bool, .one .keyUrl .text]

def FeatureClass.fields : FeatureClass → List OntologyField
  | .abac => []
  | .accessRestriction =>
    [.part .l3Firewall .l3Firewall, .part .webApplicationFirewall .webApplicationFirewall]
  | .activityLogging => loggingFields
  | .anomalyDetection =>
    [.one .enabled .bool, .one .scope .text, .part .applicationLogging .applicationLogging]
  | .applicationLogging => loggingFields
  | .atRestEncryption =>
    [.part .customerKeyEncryption .customerKeyEncryption,
    .part .managedKeyEncryption .managedKeyEncryption]
  | .authenticity =>
    [.part .certificateBasedAuthentication .certificateBasedAuthentication,
    .part .tokenBasedAuthentication .tokenBasedAuthentication,
    .part .multiFactorAuthentiation .multiFactorAuthentiation,
    .part .noAuthentication .noAuthentication,
    .part .otpBasedAuthentication .otpBasedAuthentication,
    .part .passwordBasedAuthentication .passwordBasedAuthentication,
    .part .singleSignOn .singleSignOn]
  | .authorization =>
    [.part .abac .abac, .part .l3Firewall .l3Firewall,
    .part .webApplicationFirewall .webApplicationFirewall, .part .rbac .rbac]
  | .automaticUpdates => [.one .enabled .bool, .one .interval .duration, .one .securityOnly .bool]
  | .backup =>
    [.one .enabled .bool, .one .interval .duration, .one .retentionPeriod .duration,
    .maybe .storageId .text, .part .transportEncryption .transportEncryption]
  | .bootLogging => loggingFields
  | .certificateBasedAuthentication => [.one .contextIsChecked .bool, .one .enabled .bool]
  | .cipherSuite =>
    [.one .authenticationMechanism .text, .one .keyExchangeAlgorithm .text,
    .one .macAlgorithm .text, .one .sessionCipher .text]
  | .customerKeyEncryption => keyEncryptionFields
  | .dDoSProtection => []
  | .databaseConnect =>
    [.many .calls .text, .many .databaseServiceIds .text, .maybe .databaseStorageId .text]
  | .databaseQuery =>
    [.many .calls .text, .one .modify .bool, .many .databaseServiceIds .text,
    .maybe .databaseStorageId .text]
  | .encryptionInUse => [.one .enabled .bool]
  | .functionality =>
    [.part .cipherSuite .cipherSuite, .part .httpEndpoint .httpEndpoint,
    .part .httpRequestHandler .httpRequestHandler, .part .databaseConnect .databaseConnect,
    .part .databaseQuery .databaseQuery, .part .httpRequest .httpRequest,
    .part .logOperation .logOperation, .part .objectStorageRequest .objectStorageRequest]
  | .geoLocation => [.one .region .text]
  | .geoRedundancy => redundancyFields
  | .httpEndpoint =>
    [.one .handler .text, .one .method .text, .one .path .text, .one .url .text,
    .part .authenticity .authenticity, .part .transportEncryption .transportEncryption]
  | .httpRequest => [.one .call .text, .one .reqBody .text, .parts .httpEndpoints .httpEndpoint]
  | .httpRequestHandler =>
    [.one .path .text, .maybe .applicationId .text, .parts .httpEndpoints .httpEndpoint]
  | .immutability => [.one .enabled .bool]
  | .l3Firewall => [.one .enabled .bool, .one .inbound .bool, .one .restrictedPorts .text]
  | .localRedundancy => redundancyFields
  | .logOperation => [.one .call .text, .one .value .text, .part .logging .logging]
  | .logging =>
    [.part .activityLogging .activityLogging, .part .applicationLogging .applicationLogging,
    .part .bootLogging .bootLogging, .part .osLogging .osLogging,
    .part .resourceLogging .resourceLogging]
  | .malwareProtection =>
    [.one .daysSinceActive .duration, .one .enabled .bool, .one .numberOfThreatsFound .int,
    .part .applicationLogging .applicationLogging]
  | .managedKeyEncryption => keyEncryptionFields
  | .multiFactorAuthentiation =>
    [.one .contextIsChecked .bool, .parts .authenticities .authenticity]
  | .noAuthentication => [.one .contextIsChecked .bool]
  | .objectStorageRequest => [.one .source .text, .many .objectStorageIds .text]
  | .osLogging => loggingFields
  | .otpBasedAuthentication => [.one .activated .bool, .one .contextIsChecked .bool]
  | .passwordBasedAuthentication => [.one .activated .bool, .one .contextIsChecked .bool]
  | .rbac => [.one .broadAssignments .float, .one .mixedDuties .float]
  | .redundancy =>
    [.part .geoRedundancy .geoRedundancy, .part .localRedundancy .localRedundancy,
    .part .zoneRedundancy .zoneRedundancy]
  | .resourceLogging => loggingFields
  | .securityFeature =>
    [.part .anomalyDetection .anomalyDetection, .part .activityLogging .activityLogging,
    .part .applicationLogging .applicationLogging, .part .bootLogging .bootLogging,
    .part .osLogging .osLogging, .part .resourceLogging .resourceLogging,
    .part .malwareProtection .malwareProtection, .part .usageStatistics .usageStatistics,
    .part .certificateBasedAuthentication .certificateBasedAuthentication,
    .part .tokenBasedAuthentication .tokenBasedAuthentication,
    .part .multiFactorAuthentiation .multiFactorAuthentiation,
    .part .noAuthentication .noAuthentication,
    .part .otpBasedAuthentication .otpBasedAuthentication,
    .part .passwordBasedAuthentication .passwordBasedAuthentication,
    .part .singleSignOn .singleSignOn, .part .abac .abac, .part .l3Firewall .l3Firewall,
    .part .webApplicationFirewall .webApplicationFirewall, .part .rbac .rbac,
    .part .backup .backup, .part .dDoSProtection .dDoSProtection,
    .part .geoLocation .geoLocation, .part .geoRedundancy .geoRedundancy,
    .part .localRedundancy .localRedundancy, .part .zoneRedundancy .zoneRedundancy,
    .part .customerKeyEncryption .customerKeyEncryption,
    .part .managedKeyEncryption .managedKeyEncryption, .part .encryptionInUse .encryptionInUse,
    .part .transportEncryption .transportEncryption, .part .automaticUpdates .automaticUpdates,
    .part .immutability .immutability]
  | .singleSignOn => [.one .contextIsChecked .bool, .one .enabled .bool]
  | .tokenBasedAuthentication =>
    [.one .contextIsChecked .bool, .one .enabled .bool, .one .enforced .bool]
  | .transportEncryption =>
    [.one .enabled .bool, .one .enforced .bool, .one .protocol .text,
    .one .protocolVersion .float, .parts .cipherSuites .cipherSuite]
  | .usageStatistics => [.one .apiHitsPerMonth .int]
  | .webApplicationFirewall => [.one .enabled .bool]
  | .zoneRedundancy => redundancyFields

/-- An abstract class has one field at most: the object of one of its subclasses. -/
def FeatureClass.abstract : FeatureClass → Bool
  | .accessRestriction | .atRestEncryption | .authenticity | .authorization | .functionality
  | .logging | .redundancy | .securityFeature => true
  | _ => false

def resourceFields : List OntologyField :=
  [.one .creationTime .timestamp, .one .id .text, .one .labels .labels, .one .name .text,
    .one .raw .text, .maybe .parentId .text]

def cloudResourceFields : List OntologyField :=
  resourceFields ++ [.one .internetAccessibleEndpoint .bool, .part .geoLocation .geoLocation,
    .parts .redundancies .redundancy, .part .usageStatistics .usageStatistics]

def computeFields : List OntologyField :=
  cloudResourceFields ++ [.part .encryptionInUse .encryptionInUse,
    .many .networkInterfaceIds .text, .part .resourceLogging .resourceLogging]

def credentialFields : List OntologyField :=
  cloudResourceFields ++ [.one .enabled .bool, .one .expirationDate .timestamp,
    .one .isManaged .bool, .one .notBeforeDate .timestamp, .one .numberOfUsages .int]

def identifiableFields : List OntologyField :=
  cloudResourceFields ++ [.one .activated .bool, .part .authenticity .authenticity,
    .part .authorization .authorization]

def storageFields : List OntologyField :=
  cloudResourceFields ++ [.part .atRestEncryption .atRestEncryption, .parts .backups .backup,
    .part .immutability .immutability, .part .redundancy .redundancy,
    .part .resourceLogging .resourceLogging]

def networkServiceFields : List OntologyField :=
  cloudResourceFields ++ [.many .ips .text, .many .ports .int, .part .authenticity .authenticity,
    .maybe .computeId .text, .part .transportEncryption .transportEncryption]

def storageServiceFields : List OntologyField :=
  networkServiceFields ++ [.part .httpEndpoint .httpEndpoint, .many .storageIds .text]

def databaseServiceFields : List OntologyField :=
  storageServiceFields ++ [.parts .anomalyDetections .anomalyDetection,
    .part .malwareProtection .malwareProtection]

def ResourceClass.fields : ResourceClass → List OntologyField
  | .account => cloudResourceFields
  | .application => resourceFields ++
    [.one .programmingLanguage .text, .many .translationUnits .text, .maybe .computeId .text,
    .parts .functionalities .functionality]
  | .blockStorage => storageFields
  | .certificate => credentialFields
  | .container => computeFields ++ [.maybe .imageId .text]
  | .containerImage => cloudResourceFields ++ [.maybe .applicationId .text]
  | .containerOrchestration => cloudResourceFields ++
    [.one .managementUrl .text, .many .containerIds .text,
    .part .resourceLogging .resourceLogging]
  | .containerRegistry => cloudResourceFields
  | .databaseStorage => storageFields
  | .deviceProvisioningService => cloudResourceFields
  | .document => resourceFields ++
    [.one .filename .text, .parts .securityFeatures .securityFeature]
  | .documentDatabaseService => databaseServiceFields
  | .fileStorage => storageFields ++ [.one .publicAccess .bool]
  | .fileStorageService => storageServiceFields
  | .function => computeFields ++ [.one .runtimeLanguage .text, .one .runtimeVersion .text]
  | .genericNetworkService => networkServiceFields
  | .identity => identifiableFields ++
    [.one .disablePasswordPolicy .bool, .one .enforceMfa .bool, .one .lastActivity .timestamp,
    .one .loginDefenderEnabled .bool, .one .privileged .bool]
  | .job => cloudResourceFields
  | .key => credentialFields ++ [.one .algorithm .text, .one .keySize .int]
  | .keyValueDatabaseService => databaseServiceFields
  | .keyVault => cloudResourceFields ++ [.many .credentialIds .text]
  | .loadBalancer => networkServiceFields ++
    [.one .url .text, .part .accessRestriction .accessRestriction,
    .parts .httpEndpoints .httpEndpoint, .many .networkServiceIds .text]
  | .loggingService => networkServiceFields ++ [.many .storageIds .text]
  | .messagingHub => cloudResourceFields
  | .multiModalDatabaseService => databaseServiceFields
  | .networkInterface => cloudResourceFields ++
    [.part .accessRestriction .accessRestriction, .maybe .networkServiceId .text]
  | .networkSecurityGroup => cloudResourceFields
  | .objectStorage => storageFields ++ [.one .publicAccess .bool]
  | .objectStorageService => storageServiceFields
  | .passwordPolicy => cloudResourceFields
  | .relationalDatabaseService => databaseServiceFields
  | .resourceGroup => cloudResourceFields
  | .roleAssignment => identifiableFields
  | .secret => credentialFields
  | .virtualMachine => computeFields ++
    [.part .activityLogging .activityLogging, .part .automaticUpdates .automaticUpdates,
    .many .blockStorageIds .text, .part .bootLogging .bootLogging,
    .part .malwareProtection .malwareProtection, .part .osLogging .osLogging]
  | .virtualNetwork => cloudResourceFields
  | .virtualSubNetwork => cloudResourceFields
  | .vmImage => cloudResourceFields ++ [.maybe .applicationId .text]
  | .webApp => computeFields
  | .workflow => cloudResourceFields

/-- `ResourceTypes`: the class with all classes above it. -/
def ResourceClass.typeNames : ResourceClass → List String
  | .account => ["Account", "CloudResource", "Resource"]
  | .application => ["Application", "Resource"]
  | .blockStorage => ["BlockStorage", "Storage", "CloudResource", "Resource"]
  | .certificate => ["Certificate", "Credential", "CloudResource", "Resource"]
  | .container => ["Container", "Compute", "CloudResource", "Resource"]
  | .containerImage => ["ContainerImage", "Image", "CloudResource", "Resource"]
  | .containerOrchestration => ["ContainerOrchestration", "CloudResource", "Resource"]
  | .containerRegistry => ["ContainerRegistry", "CloudResource", "Resource"]
  | .databaseStorage => ["DatabaseStorage", "Storage", "CloudResource", "Resource"]
  | .deviceProvisioningService =>
    ["DeviceProvisioningService", "IoT", "CloudResource", "Resource"]
  | .document => ["Document", "Resource"]
  | .documentDatabaseService =>
    ["DocumentDatabaseService", "DatabaseService", "StorageService", "NetworkService",
    "Networking", "CloudResource", "Resource"]
  | .fileStorage => ["FileStorage", "Storage", "CloudResource", "Resource"]
  | .fileStorageService =>
    ["FileStorageService", "StorageService", "NetworkService", "Networking", "CloudResource",
    "Resource"]
  | .function => ["Function", "Compute", "CloudResource", "Resource"]
  | .genericNetworkService =>
    ["GenericNetworkService", "NetworkService", "Networking", "CloudResource", "Resource"]
  | .identity => ["Identity", "Identifiable", "CloudResource", "Resource"]
  | .job => ["Job", "CICDService", "CloudResource", "Resource"]
  | .key => ["Key", "Credential", "CloudResource", "Resource"]
  | .keyValueDatabaseService =>
    ["KeyValueDatabaseService", "DatabaseService", "StorageService", "NetworkService",
    "Networking", "CloudResource", "Resource"]
  | .keyVault => ["KeyVault", "CloudResource", "Resource"]
  | .loadBalancer => ["LoadBalancer", "NetworkService", "Networking", "CloudResource", "Resource"]
  | .loggingService =>
    ["LoggingService", "NetworkService", "Networking", "CloudResource", "Resource"]
  | .messagingHub => ["MessagingHub", "IoT", "CloudResource", "Resource"]
  | .multiModalDatabaseService =>
    ["MultiModalDatabaseService", "DatabaseService", "StorageService", "NetworkService",
    "Networking", "CloudResource", "Resource"]
  | .networkInterface => ["NetworkInterface", "Networking", "CloudResource", "Resource"]
  | .networkSecurityGroup => ["NetworkSecurityGroup", "Networking", "CloudResource", "Resource"]
  | .objectStorage => ["ObjectStorage", "Storage", "CloudResource", "Resource"]
  | .objectStorageService =>
    ["ObjectStorageService", "StorageService", "NetworkService", "Networking", "CloudResource",
    "Resource"]
  | .passwordPolicy => ["PasswordPolicy", "CloudResource", "Resource"]
  | .relationalDatabaseService =>
    ["RelationalDatabaseService", "DatabaseService", "StorageService", "NetworkService",
    "Networking", "CloudResource", "Resource"]
  | .resourceGroup => ["ResourceGroup", "CloudResource", "Resource"]
  | .roleAssignment => ["RoleAssignment", "Identifiable", "CloudResource", "Resource"]
  | .secret => ["Secret", "Credential", "CloudResource", "Resource"]
  | .virtualMachine => ["VirtualMachine", "Compute", "CloudResource", "Resource"]
  | .virtualNetwork => ["VirtualNetwork", "Networking", "CloudResource", "Resource"]
  | .virtualSubNetwork => ["VirtualSubNetwork", "Networking", "CloudResource", "Resource"]
  | .vmImage => ["VMImage", "Image", "CloudResource", "Resource"]
  | .webApp => ["WebApp", "Compute", "CloudResource", "Resource"]
  | .workflow => ["Workflow", "CICDService", "CloudResource", "Resource"]

end Classes

section Encoding

/-- An unset field of the type is `null`: times are messages, too. -/
def FieldType.nullable : FieldType → Bool
  | .timestamp => true
  | .duration => true
  | .message _ => true
  | _ => false

-- What `protojson` makes of a message if it also emits fields that are not populated. The order
-- of the fields is that of the class.
mutual
inductive Encodes : FieldType → Json → Prop
  | bool (b : Bool) : Encodes .bool (.bool b)
  | int (n : ℤ) : Encodes .int (.number n)
  | float (q : ℚ) : Encodes .float (.number q)
  | noNumber {s : String} (h : s ∈ ["NaN", "Infinity", "-Infinity"]) : Encodes .float (.string s)
  | text (s : String) : Encodes .text (.string s)
  | timestamp (s : String) : Encodes .timestamp (.string s)
  | duration (s : String) : Encodes .duration (.string s)
  | labels (entries : List (String × String)) :
    Encodes .labels (.object (entries.map (fun entry => (entry.1, .string entry.2))))
  | message {c : FeatureClass} {fields : List (String × Json)} (hc : c.abstract = false)
    (h : EncodesFields c.fields fields) : Encodes (.message c) (.object fields)
  /-- Fields of a oneof are only emitted if they are populated. -/
  | nothing {c : FeatureClass} (hc : c.abstract = true) : Encodes (.message c) (.object [])
  | subclass {c : FeatureClass} {key : OntologyKey} {type : FieldType} {v : Json}
    (hc : c.abstract = true) (hf : ⟨key, type, .single⟩ ∈ c.fields) (h : Encodes type v) :
    Encodes (.message c) (.object [(key.jsonName, v)])
inductive EncodesValue : OntologyField → Json → Prop
  | single {key : OntologyKey} {type : FieldType} {v : Json} (h : Encodes type v) :
    EncodesValue ⟨key, type, .single⟩ v
  | unset {key : OntologyKey} {type : FieldType} (h : type.nullable = true) :
    EncodesValue ⟨key, type, .single⟩ .null
  | optional {key : OntologyKey} {type : FieldType} {v : Json} (h : Encodes type v) :
    EncodesValue ⟨key, type, .optional⟩ v
  | repeated {key : OntologyKey} {type : FieldType} {vs : List Json}
    (h : ∀ v ∈ vs, Encodes type v) : EncodesValue ⟨key, type, .repeated⟩ (.array vs)
inductive EncodesFields : List OntologyField → List (String × Json) → Prop
  | nil : EncodesFields [] []
  | emitted {f : OntologyField} {fs : List OntologyField} {v : Json}
    {fields : List (String × Json)} (hv : EncodesValue f v) (h : EncodesFields fs fields) :
    EncodesFields (f :: fs) ((f.key.jsonName, v) :: fields)
  | skipped {key : OntologyKey} {type : FieldType} {fs : List OntologyField}
    {fields : List (String × Json)} (h : EncodesFields fs fields) :
    EncodesFields (⟨key, type, .optional⟩ :: fs) fields
end

/-- A resource as the policies see it. -/
structure ResourceObject where
  cls : ResourceClass
  fields : List (String × Json)
  encodes : EncodesFields cls.fields fields

def ResourceObject.input (r : ResourceObject) : Json := resourceMap r.fields r.cls.typeNames

end Encoding

section Names

def OntologyKey.ordered : List OntologyKey :=
  [.abac, .accessRestriction, .activated, .activityLogging, .algorithm, .anomalyDetection,
  .anomalyDetections, .apiHitsPerMonth, .applicationId, .applicationLogging, .atRestEncryption,
  .authenticationMechanism, .authenticities, .authenticity, .authorization, .automaticUpdates,
  .backup, .backups, .blockStorageIds, .bootLogging, .broadAssignments, .call, .calls,
  .certificateBasedAuthentication, .cipherSuite, .cipherSuites, .computeId, .containerIds,
  .contextIsChecked, .creationTime, .credentialIds, .customerKeyEncryption, .dDoSProtection,
  .databaseConnect, .databaseQuery, .databaseServiceIds, .databaseStorageId, .daysSinceActive,
  .disablePasswordPolicy, .enabled, .encryptionInUse, .enforceMfa, .enforced, .expirationDate,
  .filename, .functionalities, .geoLocation, .geoLocations, .geoRedundancy, .handler,
  .httpEndpoint, .httpEndpoints, .httpRequest, .httpRequestHandler, .id, .imageId, .immutability,
  .inbound, .internetAccessibleEndpoint, .interval, .ips, .isManaged, .keyExchangeAlgorithm,
  .keySize, .keyUrl, .l3Firewall, .labels, .lastActivity, .localRedundancy, .logOperation,
  .logging, .loggingService, .loggingServiceIds, .loginDefenderEnabled, .macAlgorithm,
  .malwareProtection, .managedKeyEncryption, .managementUrl, .method, .mixedDuties, .modify,
  .monitoringEnabled, .multiFactorAuthentiation, .name, .networkInterfaceIds, .networkServiceId,
  .networkServiceIds, .noAuthentication, .notBeforeDate, .numberOfThreatsFound, .numberOfUsages,
  .objectStorageIds, .objectStorageRequest, .osLogging, .otpBasedAuthentication, .parentId,
  .passwordBasedAuthentication, .path, .ports, .privileged, .programmingLanguage, .protocol,
  .protocolVersion, .publicAccess, .rBAC, .raw, .rbac, .redundancies, .redundancy, .region,
  .reqBody, .resourceLogging, .restrictedPorts, .retentionPeriod, .runtimeLanguage,
  .runtimeVersion, .scope, .securityAlertsEnabled, .securityFeatures, .securityOnly,
  .sessionCipher, .singleSignOn, .source, .storageId, .storageIds, .tlsVersion,
  .tokenBasedAuthentication, .translationUnits, .transportEncryption, .type, .url,
  .usageStatistics, .value, .vulnerabilities, .webApplicationFirewall, .zoneRedundancy]

/-- Different fields have different names, for the names are in their order. -/
theorem jsonName_injective : Function.Injective OntologyKey.jsonName := by
  -- the bytes of a name are compared, which are not decoded into characters first
  have hchain : (OntologyKey.ordered.map
      (fun key => key.jsonName.toByteArray.data.toList)).IsChain (· < ·) := by
    decide +kernel
  have hne {bs bs' : List UInt8} (hlt : bs < bs') : bs ≠ bs' := by
    rintro rfl
    exact List.lt_irrefl bs hlt
  have hnodup := (List.isChain_iff_pairwise.mp hchain).imp hne
  have hall (key : OntologyKey) : key ∈ OntologyKey.ordered := by
    have hindex : OntologyKey.ordered[key.ctorIdx]? = some key := by
      cases key <;> rfl
    exact List.mem_of_getElem? hindex
  intro key key' h
  apply List.inj_on_of_nodup_map hnodup (hall key) (hall key')
  rw [h]

end Names

section Kinds

/-- What is known of a value: nothing, that it is this text, that it encodes a value of a type or
an array of them, or that it is the object of a resource, where one field is known to be unset. -/
inductive OntologyKind where
  | unknown
  | null
  | exactly (s : String)
  | value (type : FieldType)
  | array (type : FieldType)
  | typeNames (names : List String)
  | resource (c : ResourceClass) (unset : Option OntologyKey)
  deriving DecidableEq

def OntologyKind.Fits : OntologyKind → Json → Prop
  | .unknown, _ => True
  | .null, v => v = .null
  | .exactly s, v => v = .string s
  | .value type, v => Encodes type v
  | .array type, v => ∃ vs, v = .array vs ∧ ∀ w ∈ vs, Encodes type w
  | .typeNames names, v => v = .array (names.map .string)
  | .resource c unset, v => ∃ fields, EncodesFields c.fields fields ∧
      v = resourceMap fields c.typeNames ∧
      ∀ key ∈ unset, v.field key.jsonName = some .null

/-- The kinds of a field's value. -/
def OntologyField.kinds (f : OntologyField) : List OntologyKind :=
  match f.cardinality with
  | .single => if f.type.nullable then [.value f.type, .null] else [.value f.type]
  | .optional => [.value f.type]
  | .repeated => [.array f.type]

def kindsAt (fs : List OntologyField) (key : OntologyKey) : List OntologyKind :=
  (fs.filter (fun f => f.key = key)).flatMap OntologyField.kinds

def OntologyKind.field : OntologyKind → OntologyKey → List OntologyKind
  | .unknown, _ => [.unknown]
  | .value (.message c), key => kindsAt c.fields key
  | .value .labels, _ => [.value .text]
  | .resource c unset, key =>
    if key = .type then [.typeNames c.typeNames]
    else if unset = some key then [.null]
    else kindsAt c.fields key
  | _, _ => []

def OntologyKind.items : OntologyKind → List OntologyKind
  | .unknown => [.unknown]
  | .value (.message c) => c.fields.flatMap OntologyField.kinds
  | .value .labels => [.value .text]
  | .array type => [.value type]
  | .typeNames names => names.map .exactly
  | .resource c _ => .typeNames c.typeNames :: c.fields.flatMap OntologyField.kinds
  | _ => []

def OntologyKind.const : Json → OntologyKind
  | .string s => .exactly s
  | _ => .unknown

def OntologyKind.apart : OntologyKind → OntologyKind → Bool
  | .exactly s, .exactly s' => s ≠ s'
  | _, _ => false

theorem EncodesValue.fits {f : OntologyField} {v : Json} (h : EncodesValue f v) :
    ∃ k ∈ f.kinds, k.Fits v := by
  cases h with
  | @single key type v h =>
    refine ⟨.value type, ?_, h⟩
    unfold OntologyField.kinds
    split_ifs <;> simp
  | @unset key type h =>
    refine ⟨.null, ?_, rfl⟩
    simp [OntologyField.kinds, h]
  | @optional key type v h => exact ⟨.value type, List.mem_singleton_self _, h⟩
  | @repeated key type vs h => exact ⟨.array type, List.mem_singleton_self _, vs, rfl, h⟩

/-- What is in the object belongs to one of the fields. -/
def Among (fs : List OntologyField) (fields : List (String × Json)) : Prop :=
  ∀ name v, (name, v) ∈ fields → ∃ f ∈ fs, f.key.jsonName = name ∧ EncodesValue f v

theorem EncodesFields.among {fs : List OntologyField} {fields : List (String × Json)}
    (h : EncodesFields fs fields) : Among fs fields := by
  intro name v hv
  induction fs generalizing fields with
  | nil =>
    cases h
    cases hv
  | cons f fs ih =>
    cases h with
    | emitted hvalue h =>
      rcases List.mem_cons.mp hv with heq | hmem
      · cases heq
        exact ⟨f, List.mem_cons_self, rfl, hvalue⟩
      · obtain ⟨g,hg,hname,hvalue⟩ := ih h hmem
        exact ⟨g, List.mem_cons_of_mem f hg, hname, hvalue⟩
    | skipped h =>
      obtain ⟨g,hg,hname,hvalue⟩ := ih h hv
      exact ⟨g, List.mem_cons_of_mem _ hg, hname, hvalue⟩

theorem Encodes.among {c : FeatureClass} {v : Json} (h : Encodes (.message c) v) :
    ∃ fields, v = .object fields ∧ Among c.fields fields := by
  cases h with
  | message hc h => exact ⟨_, rfl, h.among⟩
  | nothing hc =>
    refine ⟨[], rfl, ?_⟩
    intro name v hv
    cases hv
  | @subclass c key type v hc hf h =>
    refine ⟨_, rfl, ?_⟩
    intro name w hw
    cases List.mem_singleton.mp hw
    exact ⟨⟨key, type, .single⟩, hf, rfl, .single h⟩

theorem mem_of_lookup {fields : List (String × Json)} {name : String} {v : Json}
    (h : fields.lookup name = some v) : (name, v) ∈ fields := by
  induction fields with
  | nil => cases h
  | cons field fields ih =>
    rw [List.lookup_cons] at h
    split at h
    · next heq =>
      cases h
      rw [beq_iff_eq] at heq
      rw [heq]
      exact List.mem_cons_self
    · exact List.mem_cons_of_mem _ (ih h)

theorem Among.fits_lookup {fs : List OntologyField} {fields : List (String × Json)}
    (h : Among fs fields) {key : OntologyKey} {v : Json}
    (hv : fields.lookup key.jsonName = some v) : ∃ k ∈ kindsAt fs key, k.Fits v := by
  obtain ⟨f,hf,hname,hvalue⟩ := h _ v (mem_of_lookup hv)
  obtain ⟨k,hk,hfits⟩ := hvalue.fits
  have hkey : f.key = key := jsonName_injective hname
  refine ⟨k, List.mem_flatMap.mpr ⟨f, ?_, hk⟩, hfits⟩
  exact List.mem_filter.mpr ⟨hf, decide_eq_true hkey⟩

theorem Among.fits_item {fs : List OntologyField} {fields : List (String × Json)}
    (h : Among fs fields) {name : String} {v : Json} (hv : (name, v) ∈ fields) :
    ∃ k ∈ fs.flatMap OntologyField.kinds, k.Fits v := by
  obtain ⟨f,hf,-,hvalue⟩ := h name v hv
  obtain ⟨k,hk,hfits⟩ := hvalue.fits
  exact ⟨k, List.mem_flatMap.mpr ⟨f, hf, hk⟩, hfits⟩

/-- Values of other types have neither fields nor items. -/
theorem Encodes.plain {type : FieldType} {v : Json} (h : Encodes type v)
    (hlabels : type ≠ .labels) (hmessage : ∀ c, type ≠ .message c) :
    v.items = [] ∧ ∀ name, v.field name = none := by
  cases h with
  | labels entries => exact absurd rfl hlabels
  | message hc h => exact absurd rfl (hmessage _)
  | nothing hc => exact absurd rfl (hmessage _)
  | subclass hc hf h => exact absurd rfl (hmessage _)
  | _ => exact ⟨rfl, fun _ => rfl⟩

theorem Encodes.fits_field {type : FieldType} {v w : Json} (h : Encodes type v)
    {key : OntologyKey} (hw : v.field key.jsonName = some w) :
    ∃ k ∈ (OntologyKind.value type).field key, k.Fits w := by
  by_cases hlabels : type = .labels
  · subst hlabels
    obtain ⟨entries⟩ := h
    obtain ⟨entry,-,heq⟩ := List.mem_map.mp (mem_of_lookup hw)
    refine ⟨.value .text, List.mem_singleton_self _, ?_⟩
    rw [← (Prod.mk.inj heq).2]
    exact .text entry.2
  · by_cases hmessage : ∃ c, type = .message c
    · obtain ⟨c,rfl⟩ := hmessage
      obtain ⟨fields,rfl,hamong⟩ := h.among
      exact hamong.fits_lookup hw
    · rw [(h.plain hlabels (fun c hc => hmessage ⟨c, hc⟩)).2] at hw
      cases hw

theorem Encodes.fits_items {type : FieldType} {v w : Json} (h : Encodes type v)
    (hw : w ∈ v.items) : ∃ k ∈ (OntologyKind.value type).items, k.Fits w := by
  by_cases hlabels : type = .labels
  · subst hlabels
    obtain ⟨entries⟩ := h
    obtain ⟨field,hfield,rfl⟩ := List.mem_map.mp hw
    obtain ⟨entry,-,rfl⟩ := List.mem_map.mp hfield
    exact ⟨.value .text, List.mem_singleton_self _, .text _⟩
  · by_cases hmessage : ∃ c, type = .message c
    · obtain ⟨c,rfl⟩ := hmessage
      obtain ⟨fields,rfl,hamong⟩ := h.among
      obtain ⟨⟨name,w⟩,hmem,rfl⟩ := List.mem_map.mp hw
      exact hamong.fits_item hmem
    · rw [(h.plain hlabels (fun c hc => hmessage ⟨c, hc⟩)).1] at hw
      cases hw

theorem field_type_resourceMap (fields : List (String × Json)) (types : List String) :
    (resourceMap fields types).field "type" = some (.array (types.map .string)) := by
  rw [resourceMap, Json.field, List.lookup_cons, beq_self_eq_true]

theorem resource_fits_field {c : ResourceClass} {unset : Option OntologyKey} {v w : Json}
    (h : (OntologyKind.resource c unset).Fits v) {key : OntologyKey}
    (hw : v.field key.jsonName = some w) :
    ∃ k ∈ (OntologyKind.resource c unset).field key, k.Fits w := by
  obtain ⟨fields,hfields,rfl,hunset⟩ := h
  rw [OntologyKind.field]
  split_ifs with htype hkey
  · -- the types are put in last, over anything else of the name
    subst htype
    refine ⟨.typeNames c.typeNames, List.mem_singleton_self _, ?_⟩
    have htypes := field_type_resourceMap fields c.typeNames
    exact Option.some.inj (hw.symm.trans htypes)
  · refine ⟨.null, List.mem_singleton_self _, ?_⟩
    exact Option.some.inj (hw.symm.trans (hunset key hkey))
  · have hname : key.jsonName ≠ "type" := fun h => htype (jsonName_injective h)
    rw [field_resourceMap _ _ _ hname] at hw
    exact hfields.among.fits_lookup hw

theorem resource_fits_items {c : ResourceClass} {unset : Option OntologyKey} {v w : Json}
    (h : (OntologyKind.resource c unset).Fits v) (hw : w ∈ v.items) :
    ∃ k ∈ (OntologyKind.resource c unset).items, k.Fits w := by
  obtain ⟨fields,hfields,rfl,-⟩ := h
  rcases List.mem_cons.mp hw with rfl | hrest
  · exact ⟨.typeNames c.typeNames, List.mem_cons_self, rfl⟩
  · obtain ⟨⟨name,w⟩,hmem,rfl⟩ := List.mem_map.mp hrest
    obtain ⟨k,hk,hfits⟩ := hfields.among.fits_item (List.mem_filter.mp hmem).1
    exact ⟨k, List.mem_cons_of_mem _ hk, hfits⟩

def ResourceClass.all : List ResourceClass :=
  [.account, .application, .blockStorage, .certificate, .container, .containerImage,
  .containerOrchestration, .containerRegistry, .databaseStorage, .deviceProvisioningService,
  .document, .documentDatabaseService, .fileStorage, .fileStorageService, .function,
  .genericNetworkService, .identity, .job, .key, .keyValueDatabaseService, .keyVault,
  .loadBalancer, .loggingService, .messagingHub, .multiModalDatabaseService, .networkInterface,
  .networkSecurityGroup, .objectStorage, .objectStorageService, .passwordPolicy,
  .relationalDatabaseService, .resourceGroup, .roleAssignment, .secret, .virtualMachine,
  .virtualNetwork, .virtualSubNetwork, .vmImage, .webApp, .workflow]

theorem mem_allClasses (c : ResourceClass) : c ∈ ResourceClass.all := by
  cases c <;> decide

/-- The kinds of what resources contain. -/
def ontologyKinds : KindSystem OntologyKey.jsonName where
  Kind := OntologyKind
  Fits := OntologyKind.Fits
  unknown := .unknown
  const := OntologyKind.const
  field := OntologyKind.field
  items := OntologyKind.items
  apart := OntologyKind.apart
  fits_unknown v := trivial
  fits_const v := by
    cases v with
    | string s => rfl
    | _ => trivial
  fits_field {k v w} key hfits hw := by
    cases k with
    | unknown => exact ⟨.unknown, List.mem_singleton_self _, trivial⟩
    | value type => exact hfits.fits_field hw
    | resource c unset => exact resource_fits_field hfits hw
    | array type =>
      obtain ⟨vs,rfl,-⟩ := hfits
      cases hw
    | _ =>
      cases hfits
      cases hw
  fits_items {k v w} hfits hw := by
    cases k with
    | unknown => exact ⟨.unknown, List.mem_singleton_self _, trivial⟩
    | value type => exact hfits.fits_items hw
    | resource c unset => exact resource_fits_items hfits hw
    | array type =>
      obtain ⟨vs,rfl,hvs⟩ := hfits
      exact ⟨.value type, List.mem_singleton_self _, hvs w hw⟩
    | typeNames names =>
      cases hfits
      obtain ⟨name,hname,rfl⟩ := List.mem_map.mp hw
      exact ⟨.exactly name, List.mem_map_of_mem hname, rfl⟩
    | _ =>
      cases hfits
      cases hw
  ne_of_apart {k k' v w} hapart hfits hfits' := by
    cases k with
    | exactly s =>
      cases k' with
      | exactly s' =>
        cases hfits
        cases hfits'
        have hne : s ≠ s' := of_decide_eq_true hapart
        exact fun h => hne (Json.string.inj h)
      | _ => cases hapart
    | _ => cases hapart

end Kinds

section Emitting

/-- What is emitted for a field that is not populated. -/
def OntologyField.unset (f : OntologyField) : Option Json :=
  match f.cardinality, f.type with
  | .optional, _ => none
  | .repeated, _ => some (.array [])
  | .single, .bool => some (.bool false)
  | .single, .int => some (.number 0)
  | .single, .float => some (.number 0)
  | .single, .text => some (.string "")
  | .single, .labels => some (.object [])
  | .single, _ => some .null

theorem OntologyField.encodes_unset (f : OntologyField) (v : Json) (h : f.unset = some v) :
    EncodesValue f v := by
  obtain ⟨key,type,cardinality⟩ := f
  cases cardinality with
  | optional => cases h
  | repeated =>
    cases h
    exact .repeated (fun v hv => nomatch hv)
  | single =>
    cases type with
    | bool => cases h; exact .single (.bool false)
    | int => cases h; exact .single (.int 0)
    | float => cases h; exact .single (.float 0)
    | text => cases h; exact .single (.text "")
    | labels => cases h; exact .single (.labels [])
    | _ => cases h; exact .unset rfl

variable (set : List (OntologyKey × Json))

def OntologyField.emitted (f : OntologyField) : Option Json := (set.lookup f.key).or f.unset

/-- The fields of an object where some are populated. -/
def emit (fs : List OntologyField) : List (String × Json) :=
  fs.filterMap (fun f => (f.emitted set).map (fun v => (f.key.jsonName, v)))

/-- The values fit the fields of the class. -/
def Populates (fs : List OntologyField) : Prop :=
  ∀ p ∈ set, ∀ f ∈ fs.filter (fun f => f.key = p.1), EncodesValue f p.2

theorem Populates.nil {fs : List OntologyField} : Populates [] fs := by
  intro p hp
  cases hp

variable {set}

theorem Populates.cons {fs : List OntologyField} {key : OntologyKey} {f : OntologyField} {v : Json}
    (hf : fs.filter (fun f => f.key = key) = [f]) (hv : EncodesValue f v)
    (h : Populates set fs) : Populates ((key, v) :: set) fs := by
  intro p hp g hg
  rcases List.mem_cons.mp hp with rfl | hp
  · rw [hf, List.mem_singleton] at hg
    rw [hg]
    exact hv
  · exact h p hp g hg

theorem Populates.encodes {fs : List OntologyField} (h : Populates set fs) {f : OntologyField}
    (hf : f ∈ fs) {v : Json} (hv : set.lookup f.key = some v) : EncodesValue f v := by
  have hmem : ∃ p ∈ set, p.1 = f.key ∧ p.2 = v := by
    obtain ⟨l,r,hset,-⟩ := List.lookup_eq_some_iff.mp hv
    exact ⟨(f.key, v), by simp [hset], rfl, rfl⟩
  obtain ⟨p,hp,hkey,rfl⟩ := hmem
  apply h p hp f
  exact List.mem_filter.mpr ⟨hf, decide_eq_true hkey.symm⟩

theorem encodesFields_emit {fs : List OntologyField} (h : Populates set fs) :
    EncodesFields fs (emit set fs) := by
  have hsub (gs : List OntologyField) (hgs : ∀ g ∈ gs, g ∈ fs) :
      EncodesFields gs (emit set gs) := by
    induction gs with
    | nil => exact .nil
    | cons f gs ih =>
      have hrest := ih (fun g hg => hgs g (List.mem_cons_of_mem f hg))
      cases hv : f.emitted set with
      | some v =>
        have hfields : emit set (f :: gs) = (f.key.jsonName, v) :: emit set gs := by
          simp [emit, hv]
        rw [hfields]
        refine .emitted ?_ hrest
        cases hset : set.lookup f.key with
        | some w =>
          rw [OntologyField.emitted, hset, Option.some_or] at hv
          cases hv
          exact h.encodes (hgs f List.mem_cons_self) hset
        | none =>
          rw [OntologyField.emitted, hset, Option.none_or] at hv
          exact f.encodes_unset v hv
      | none =>
        have hfields : emit set (f :: gs) = emit set gs := by simp [emit, hv]
        rw [hfields]
        -- only an optional field can be left out
        obtain ⟨key,type,cardinality⟩ := f
        rw [OntologyField.emitted, Option.or_eq_none_iff] at hv
        cases cardinality with
        | optional => exact .skipped hrest
        | repeated => cases hv.2
        | single => cases type <;> cases hv.2
  exact hsub fs (fun g hg => hg)

variable (set)

theorem lookup_emit (fs : List OntologyField) (key : OntologyKey) :
    (emit set fs).lookup key.jsonName =
      ((fs.filter (fun f => f.key = key)).filterMap (OntologyField.emitted set)).head? := by
  induction fs with
  | nil => rfl
  | cons f fs ih =>
    by_cases hkey : f.key = key
    · rw [List.filter_cons_of_pos (by simpa using hkey)]
      cases hv : f.emitted set with
      | some v => simp [emit, hv, hkey]
      | none =>
        rw [List.filterMap_cons_none hv, ← ih]
        simp [emit, hv]
    · rw [List.filter_cons_of_neg (by simpa using hkey), ← ih]
      have hname : (key.jsonName == f.key.jsonName) = false := by
        rw [beq_eq_false_iff_ne]
        exact fun h => hkey (jsonName_injective h).symm
      cases hv : f.emitted set with
      | some v => simp [emit, hv, List.lookup_cons, hname]
      | none => simp [emit, hv]

def featureObject (c : FeatureClass) : Json := .object (emit set c.fields)

theorem field_featureObject (c : FeatureClass) (key : OntologyKey) :
    (featureObject set c).field key.jsonName =
      ((c.fields.filter (fun f => f.key = key)).filterMap (OntologyField.emitted set)).head? :=
  lookup_emit set c.fields key

theorem EncodesValue.part {key : OntologyKey} {c : FeatureClass} (hc : c.abstract = false)
    (h : Populates set c.fields) : EncodesValue (.part key c) (featureObject set c) :=
  .single (.message hc (encodesFields_emit h))

def resourceObject (c : ResourceClass) (h : Populates set c.fields) : ResourceObject :=
  ⟨c, emit set c.fields, encodesFields_emit h⟩

theorem field_resourceObject (c : ResourceClass) (h : Populates set c.fields) (key : OntologyKey)
    (hkey : key ≠ .type) : (resourceObject set c h).input.field key.jsonName =
      ((c.fields.filter (fun f => f.key = key)).filterMap (OntologyField.emitted set)).head? := by
  have hname : key.jsonName ≠ "type" := fun h => hkey (jsonName_injective h)
  rw [ResourceObject.input, field_resourceMap _ _ _ hname]
  exact lookup_emit set c.fields key

end Emitting

end Clouditor
