import StartOnReady.Service.Exchange
import StartOnReady.Service.Shape

/-!
# What responses look like

The shapes of the responses to each call, and the errors that each call knows.
-/

namespace StartOnReady.Service

namespace Shape

/-- A record of texts. -/
def texts (names : List String) : Shape := .record (names.map fun name => (name, .text))

/-! ### The configuration of a query -/

/-- A resource and the role that reads it. -/
def resource : Shape := texts ["ResourceARN", "RoleARN"]

/-- The schema of records that are read. -/
def sourceSchema : Shape :=
  .record [
    ("RecordFormat", .record [
      ("RecordFormatType", .text),
      ("MappingParameters", .record [
        ("JSONMappingParameters", texts ["RecordRowPath"]),
        ("CSVMappingParameters", texts ["RecordRowDelimiter", "RecordColumnDelimiter"])])]),
    ("RecordEncoding", .text),
    ("RecordColumns", .list (texts ["Name", "Mapping", "SqlType"]))]

/-- An input of a query. -/
def queryInput : Shape :=
  .record [
    ("InputId", .text),
    ("NamePrefix", .text),
    ("InAppStreamNames", .list .text),
    ("InputProcessingConfigurationDescription", .record [
      ("InputLambdaProcessorDescription", resource)]),
    ("KinesisStreamsInputDescription", resource),
    ("KinesisFirehoseInputDescription", resource),
    ("InputSchema", sourceSchema),
    ("InputParallelism", .record [("Count", .integer32)]),
    ("InputStartingPositionConfiguration", texts ["InputStartingPosition"])]

/-- An output of a query. -/
def queryOutput : Shape :=
  .record [
    ("OutputId", .text),
    ("Name", .text),
    ("KinesisStreamsOutputDescription", resource),
    ("KinesisFirehoseOutputDescription", resource),
    ("LambdaOutputDescription", resource),
    ("DestinationSchema", texts ["RecordFormatType"])]

/-- A table that a query refers to. -/
def queryReference : Shape :=
  .record [
    ("ReferenceId", .text),
    ("TableName", .text),
    ("S3ReferenceDataSourceDescription", texts ["BucketARN", "FileKey", "ReferenceRoleARN"]),
    ("ReferenceSchema", sourceSchema)]

/-- The configuration of a query. -/
def query : Shape :=
  .record [
    ("InputDescriptions", .list queryInput),
    ("OutputDescriptions", .list queryOutput),
    ("ReferenceDataSourceDescriptions", .list queryReference)]

/-! ### The configuration of an application -/

/-- A stored file. -/
def storedFile : Shape := texts ["BucketARN", "FileKey", "ObjectVersion"]

/-- The code of an application. -/
def code : Shape :=
  .record [
    ("CodeContentType", .text),
    ("CodeContentDescription", .record [
      ("TextContent", .text),
      ("CodeMD5", .text),
      ("CodeSize", .integer64),
      ("S3ApplicationCodeLocationDescription", storedFile)])]

/-- How an application runs. -/
def run : Shape :=
  .record [
    ("ApplicationRestoreConfigurationDescription",
      texts ["ApplicationRestoreType", "SnapshotName"]),
    ("FlinkRunConfigurationDescription", .record [("AllowNonRestoredState", .truth)])]

/-- The settings of the engine. -/
def engine : Shape :=
  .record [
    ("CheckpointConfigurationDescription", .record [
      ("ConfigurationType", .text),
      ("CheckpointingEnabled", .truth),
      ("CheckpointInterval", .integer64),
      ("MinPauseBetweenCheckpoints", .integer64)]),
    ("MonitoringConfigurationDescription", texts ["ConfigurationType", "MetricsLevel", "LogLevel"]),
    ("ParallelismConfigurationDescription", .record [
      ("ConfigurationType", .text),
      ("Parallelism", .integer32),
      ("ParallelismPerKPU", .integer32),
      ("CurrentParallelism", .integer32),
      ("AutoScalingEnabled", .truth)]),
    ("JobPlanDescription", .text)]

/-- Groups of properties. -/
def properties : Shape :=
  .record [
    ("PropertyGroupDescriptions", .list (.record [
      ("PropertyGroupId", .text),
      ("PropertyMap", .map .text)]))]

/-- A private network. -/
def network : Shape :=
  .record [
    ("VpcConfigurationId", .text),
    ("VpcId", .text),
    ("SubnetIds", .list .text),
    ("SecurityGroupIds", .list .text)]

/-- The settings of a notebook. -/
def notebook : Shape :=
  .record [
    ("MonitoringConfigurationDescription", texts ["LogLevel"]),
    ("CatalogConfigurationDescription", .record [
      ("GlueDataCatalogConfigurationDescription", texts ["DatabaseARN"])]),
    ("DeployAsApplicationConfigurationDescription", .record [
      ("S3ContentLocationDescription", texts ["BucketARN", "BasePath"])]),
    ("CustomArtifactsConfigurationDescription", .list (.record [
      ("ArtifactType", .text),
      ("S3ContentLocationDescription", storedFile),
      ("MavenReferenceDescription", texts ["GroupId", "ArtifactId", "Version"])]))]

/-- The configuration of an application. -/
def configuration : Shape :=
  .record [
    ("SqlApplicationConfigurationDescription", query),
    ("ApplicationCodeConfigurationDescription", code),
    ("RunConfigurationDescription", run),
    ("FlinkApplicationConfigurationDescription", engine),
    ("EnvironmentPropertyDescriptions", properties),
    ("ApplicationSnapshotConfigurationDescription", .record [("SnapshotsEnabled", .truth)]),
    ("ApplicationSystemRollbackConfigurationDescription", .record [("RollbackEnabled", .truth)]),
    ("VpcConfigurationDescriptions", .list network),
    ("ZeppelinApplicationConfigurationDescription", notebook),
    ("ApplicationEncryptionConfigurationDescription", texts ["KeyId", "KeyType"])]

/-! ### Applications -/

/-- An application. -/
def detail : Shape :=
  .record [
    ("ApplicationARN", .text),
    ("ApplicationDescription", .text),
    ("ApplicationName", .text),
    ("RuntimeEnvironment", .text),
    ("ServiceExecutionRole", .text),
    ("ApplicationStatus", .text),
    ("ApplicationVersionId", .integer64),
    ("CreateTimestamp", .moment),
    ("LastUpdateTimestamp", .moment),
    ("ApplicationConfigurationDescription", configuration),
    ("CloudWatchLoggingOptionDescriptions",
      .list (texts ["CloudWatchLoggingOptionId", "LogStreamARN", "RoleARN"])),
    ("ApplicationMaintenanceConfigurationDescription",
      texts ["ApplicationMaintenanceWindowStartTime", "ApplicationMaintenanceWindowEndTime"]),
    ("ApplicationVersionUpdatedFrom", .integer64),
    ("ApplicationVersionRolledBackFrom", .integer64),
    ("ApplicationVersionCreateTimestamp", .moment),
    ("ConditionalToken", .text),
    ("ApplicationVersionRolledBackTo", .integer64),
    ("ApplicationMode", .text)]

/-- An error that a call knows. -/
def refusal : Shape := texts ["Message"]

end Shape

namespace Operation

/-- The shape of a success. -/
def success : Operation → Shape
  | describe => .record [("ApplicationDetail", .detail)]
  | start => .texts ["OperationId"]

/-- The codes of the errors that a call knows. -/
def knownCodes : Operation → List String
  | describe =>
    ["InvalidArgumentException", "InvalidRequestException", "ResourceNotFoundException"]
  | start =>
    ["InvalidApplicationConfigurationException", "InvalidArgumentException",
      "InvalidRequestException", "ResourceInUseException", "ResourceNotFoundException"]

end Operation

end StartOnReady.Service
