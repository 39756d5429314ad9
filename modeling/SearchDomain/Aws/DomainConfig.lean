import SearchDomain.Aws.Shape
/-!
# DomainConfig — the configuration of a search domain as its management service describes it

Every part of a configuration comes with its options and with the state in which they are.
-/
namespace SearchDomain.Aws.DomainConfig

open Shape

/-- The state of a part: since when, in which version. -/
def partStatus : Shape :=
  .record
    [ ("CreationDate", .time), ("UpdateDate", .time), ("UpdateVersion", int), ("State", .text),
      ("PendingDeletion", .flag) ]

def part (options : Shape) : Shape := .record [("Options", options), ("Status", partStatus)]

/-- Something that is on or off. -/
def switch : Shape := .record [("Enabled", .flag)]

def cluster : Shape :=
  .record
    [ ("InstanceType", .text), ("InstanceCount", int), ("DedicatedMasterEnabled", .flag),
      ("ZoneAwarenessEnabled", .flag), ("ZoneAwarenessConfig", .record [("AvailabilityZoneCount", int)]),
      ("DedicatedMasterType", .text), ("DedicatedMasterCount", int), ("WarmEnabled", .flag), ("WarmType", .text),
      ("WarmCount", int), ("ColdStorageOptions", switch), ("MultiAZWithStandbyEnabled", .flag),
      ("NodeOptions",
        .list (.record
          [ ("NodeType", .text),
            ("NodeConfig", .record [("Enabled", .flag), ("Type", .text), ("Count", int)]) ])) ]

def storage : Shape :=
  .record
    [("EBSEnabled", .flag), ("VolumeType", .text), ("VolumeSize", int), ("Iops", int), ("Throughput", int)]

def network : Shape :=
  .record [("VPCId", .text), ("SubnetIds", texts), ("AvailabilityZones", texts), ("SecurityGroupIds", texts)]

def cognito : Shape :=
  .record [("Enabled", .flag), ("UserPoolId", .text), ("IdentityPoolId", .text), ("RoleArn", .text)]

def domainEndpoint : Shape :=
  .record
    [ ("EnforceHTTPS", .flag), ("TLSSecurityPolicy", .text), ("CustomEndpointEnabled", .flag),
      ("CustomEndpoint", .text), ("CustomEndpointCertificateArn", .text) ]

def security : Shape :=
  .record
    [ ("Enabled", .flag), ("InternalUserDatabaseEnabled", .flag),
      ("SAMLOptions",
        .record
          [ ("Enabled", .flag), ("Idp", .record [("MetadataContent", .text), ("EntityId", .text)]),
            ("SubjectKey", .text), ("RolesKey", .text), ("SessionTimeoutMinutes", int) ]),
      ("JWTOptions",
        .record
          [ ("Enabled", .flag), ("SubjectKey", .text), ("RolesKey", .text), ("PublicKey", .text), ("JwksUrl", .text) ]),
      ("IAMFederationOptions", .record [("Enabled", .flag), ("SubjectKey", .text), ("RolesKey", .text)]),
      ("AnonymousAuthDisableDate", .time), ("AnonymousAuthEnabled", .flag) ]

def identityCenter : Shape :=
  .record
    [ ("EnabledAPIAccess", .flag), ("IdentityCenterInstanceARN", .text), ("SubjectKey", .text), ("RolesKey", .text),
      ("IdentityCenterApplicationARN", .text), ("IdentityStoreId", .text) ]

def tuning : Shape :=
  .record
    [ ("DesiredState", .text), ("RollbackOnDisable", .text),
      ("MaintenanceSchedules",
        .list (.record
          [ ("StartAt", .time), ("Duration", .record [("Value", long), ("Unit", .text)]),
            ("CronExpressionForRecurrence", .text) ])),
      ("UseOffPeakWindow", .flag) ]

/-- The state of the tuning, which also tells what went wrong. -/
def tuningStatus : Shape :=
  .record
    [ ("CreationDate", .time), ("UpdateDate", .time), ("UpdateVersion", int), ("State", .text), ("ErrorMessage", .text),
      ("PendingDeletion", .flag) ]

def offPeak : Shape :=
  .record
    [ ("Enabled", .flag),
      ("OffPeakWindow", .record [("WindowStartTime", .record [("Hours", long), ("Minutes", long)])]) ]

def learning : Shape :=
  .record
    [ ("NaturalLanguageQueryGenerationOptions", .record [("DesiredState", .text), ("CurrentState", .text)]),
      ("S3VectorsEngine", switch), ("ServerlessVectorAcceleration", switch) ]

def progress : Shape :=
  .record
    [ ("ChangeId", .text), ("Message", .text), ("ConfigChangeStatus", .text), ("InitiatedBy", .text),
      ("StartTime", .time), ("LastUpdatedTime", .time) ]

def shape : Shape :=
  .record
    [ ("EngineVersion", part .text), ("ClusterConfig", part cluster), ("EBSOptions", part storage),
      ("AccessPolicies", part .text), ("IPAddressType", part .text),
      ("SnapshotOptions", part (.record [("AutomatedSnapshotStartHour", int)])), ("VPCOptions", part network),
      ("CognitoOptions", part cognito),
      ("EncryptionAtRestOptions", part (.record [("Enabled", .flag), ("KmsKeyId", .text)])),
      ("NodeToNodeEncryptionOptions", part switch), ("AdvancedOptions", part (.map .text)),
      ("LogPublishingOptions",
        part (.map (.record [("CloudWatchLogsLogGroupArn", .text), ("Enabled", .flag)]))),
      ("DomainEndpointOptions", part domainEndpoint), ("AdvancedSecurityOptions", part security),
      ("IdentityCenterOptions", part identityCenter),
      ("AutoTuneOptions", .record [("Options", tuning), ("Status", tuningStatus)]),
      ("ChangeProgressDetails", progress), ("OffPeakWindowOptions", part offPeak),
      ("SoftwareUpdateOptions",
        part (.record [("AutoSoftwareUpdateEnabled", .flag), ("UseLatestServiceSoftwareForBlueGreen", .flag)])),
      ("ModifyingProperties",
        .list (.record
          [("Name", .text), ("CurrentValue", .text), ("PendingValue", .text), ("ValueType", .text)])),
      ("AIMLOptions", part learning), ("UseCase", part .text),
      ("DeploymentStrategyOptions", part (.record [("DeploymentStrategy", .text)])),
      ("AutomatedSnapshotPauseOptions",
        part (.record [("State", .text), ("Enabled", .flag), ("StartTime", .time), ("EndTime", .time)])) ]

/-- What a change would do, if it was only tried. -/
def dryRunResults : Shape := .record [("DeploymentType", .text), ("Message", .text)]

def dryRunProgress : Shape :=
  .record
    [ ("DryRunId", .text), ("DryRunStatus", .text), ("CreationDate", .text), ("UpdateDate", .text),
      ("ValidationFailures", .list (.record [("Code", .text), ("Message", .text)])) ]

end SearchDomain.Aws.DomainConfig
