import ClusterGateway.Object.Metadata

/-!
# The schema of pods

All fields of a pod with their types, from the volumes to the states of the containers.
-/

namespace ClusterGateway

namespace PodSchema

open FieldType

/-- A record of strings and of other fields. -/
def partOf (texts : List String) (others : List (String × FieldType)) : FieldType :=
  record (textRecord texts ++ others)

/-- Amounts of resources by name. -/
def quantities : FieldType := textMap

/-- A reference to an object of the same namespace. -/
def localReference : FieldType := partOf ["name"] []

/-! ### Containers -/

/-- A key of a config map or of a secret. -/
def keySelector : FieldType := partOf ["key", "name"] [("optional", flag)]

/-- A field of the pod. -/
def fieldSelector : FieldType := partOf ["apiVersion", "fieldPath"] []

/-- A resource of a container. -/
def resourceSelector : FieldType := partOf ["containerName", "divisor", "resource"] []

/-- A variable of the environment. -/
def environmentVariable : FieldType := partOf ["name", "value"] [
  ("valueFrom", record [("configMapKeyRef", keySelector), ("fieldRef", fieldSelector),
    ("resourceFieldRef", resourceSelector), ("secretKeyRef", keySelector)])]

/-- A source of variables. -/
def variableSource : FieldType := partOf ["prefix"] [
  ("configMapRef", partOf ["name"] [("optional", flag)]),
  ("secretRef", partOf ["name"] [("optional", flag)])]

/-- A command to run. -/
def execAction : FieldType := record [("command", texts)]

/-- A request over HTTP. -/
def httpAction : FieldType := partOf ["host", "path", "scheme"] [
  ("httpHeaders", list (partOf ["name", "value"] [])), ("port", port)]

/-- A connection over TCP. -/
def tcpAction : FieldType := partOf ["host"] [("port", port)]

/-- What is done at a point of the life of a container. -/
def lifecycleHandler : FieldType := record [("exec", execAction), ("httpGet", httpAction),
  ("sleep", record [("seconds", int64)]), ("tcpSocket", tcpAction)]

/-- A check of a container. -/
def probe : FieldType := record [("exec", execAction), ("failureThreshold", int32),
  ("grpc", partOf ["service"] [("port", int32)]), ("httpGet", httpAction),
  ("initialDelaySeconds", int32), ("periodSeconds", int32), ("successThreshold", int32),
  ("tcpSocket", tcpAction), ("terminationGracePeriodSeconds", int64), ("timeoutSeconds", int32)]

/-- A port of a container. -/
def containerPort : FieldType := partOf ["hostIP", "name", "protocol"] [
  ("containerPort", int32), ("hostPort", int32)]

/-- What a container needs and may use. -/
def resources : FieldType := record [("claims", list (partOf ["name", "request"] [])),
  ("limits", quantities), ("requests", quantities)]

/-- A profile that restricts a container. -/
def profile : FieldType := partOf ["localhostProfile", "type"] []

/-- Labels of a security module. -/
def securityLabels : FieldType := partOf ["level", "role", "type", "user"] []

/-- Options of another operating system. -/
def windowsOptions : FieldType := partOf
  ["gmsaCredentialSpec", "gmsaCredentialSpecName", "runAsUserName"] [("hostProcess", flag)]

/-- What a container may do. -/
def securityContext : FieldType := partOf ["procMount"] [("allowPrivilegeEscalation", flag),
  ("appArmorProfile", profile), ("capabilities", record [("add", texts), ("drop", texts)]),
  ("privileged", flag), ("readOnlyRootFilesystem", flag), ("runAsGroup", int64),
  ("runAsNonRoot", flag), ("runAsUser", int64), ("seLinuxOptions", securityLabels),
  ("seccompProfile", profile), ("windowsOptions", windowsOptions)]

/-- A volume inside a container. -/
def volumeMount : FieldType := partOf
  ["mountPath", "mountPropagation", "name", "recursiveReadOnly", "subPath", "subPathExpr"]
  [("readOnly", flag)]

/-- The fields of a container. -/
def containerFields : List (String × FieldType) :=
  textRecord ["image", "imagePullPolicy", "name", "restartPolicy", "terminationMessagePath",
    "terminationMessagePolicy", "workingDir"] ++
  [("args", texts), ("command", texts), ("env", list environmentVariable),
    ("envFrom", list variableSource),
    ("lifecycle", record [("postStart", lifecycleHandler), ("preStop", lifecycleHandler)]),
    ("livenessProbe", probe), ("ports", list containerPort), ("readinessProbe", probe),
    ("resizePolicy", list (partOf ["resourceName", "restartPolicy"] [])),
    ("resources", resources), ("securityContext", securityContext), ("startupProbe", probe),
    ("stdin", flag), ("stdinOnce", flag), ("tty", flag),
    ("volumeDevices", list (partOf ["devicePath", "name"] [])),
    ("volumeMounts", list volumeMount)]

/-- A container. -/
def container : FieldType := record containerFields

/-- A container for debugging. -/
def ephemeralContainer : FieldType := record (("targetContainerName", text) :: containerFields)

/-! ### Placement -/

/-- A demand on the labels or fields of a node. -/
def nodeRequirement : FieldType := partOf ["key", "operator"] [("values", texts)]

/-- Demands on a node. -/
def nodeTerm : FieldType := record [("matchExpressions", list nodeRequirement),
  ("matchFields", list nodeRequirement)]

/-- Demands on the pods nearby. -/
def podTerm : FieldType := partOf ["topologyKey"] [("labelSelector", labelSelectorSchema),
  ("matchLabelKeys", texts), ("mismatchLabelKeys", texts),
  ("namespaceSelector", labelSelectorSchema), ("namespaces", texts)]

/-- Nearness to pods. -/
def podAffinity : FieldType := record [
  ("preferredDuringSchedulingIgnoredDuringExecution",
    list (record [("podAffinityTerm", podTerm), ("weight", int32)])),
  ("requiredDuringSchedulingIgnoredDuringExecution", list podTerm)]

/-- Where a pod should run. -/
def affinity : FieldType := record [
  ("nodeAffinity", record [
    ("preferredDuringSchedulingIgnoredDuringExecution",
      list (record [("preference", nodeTerm), ("weight", int32)])),
    ("requiredDuringSchedulingIgnoredDuringExecution",
      record [("nodeSelectorTerms", list nodeTerm)])]),
  ("podAffinity", podAffinity), ("podAntiAffinity", podAffinity)]

/-- How pods are spread. -/
def spreadConstraint : FieldType := partOf
  ["nodeAffinityPolicy", "nodeTaintsPolicy", "topologyKey", "whenUnsatisfiable"]
  [("labelSelector", labelSelectorSchema), ("matchLabelKeys", texts), ("maxSkew", int32),
    ("minDomains", int32)]

/-- What a pod tolerates of a node. -/
def toleration : FieldType := partOf ["effect", "key", "operator", "value"]
  [("tolerationSeconds", int64)]

/-! ### Volumes -/

/-- Keys with the paths of their files. -/
def keyPaths : FieldType := list (partOf ["key", "path"] [("mode", int32)])

/-- Files about the pod. -/
def downwardFiles : FieldType := list (partOf ["path"] [("fieldRef", fieldSelector),
  ("mode", int32), ("resourceFieldRef", resourceSelector)])

/-- A claim of a volume. -/
def volumeClaim : FieldType := partOf
  ["storageClassName", "volumeAttributesClassName", "volumeMode", "volumeName"]
  [("accessModes", texts), ("dataSource", partOf ["apiGroup", "kind", "name"] []),
    ("dataSourceRef", partOf ["apiGroup", "kind", "name", "namespace"] []),
    ("resources", record [("limits", quantities), ("requests", quantities)]),
    ("selector", labelSelectorSchema)]

/-- One part of a volume with several sources. -/
def projection : FieldType := record [
  ("clusterTrustBundle", partOf ["name", "path", "signerName"]
    [("labelSelector", labelSelectorSchema), ("optional", flag)]),
  ("configMap", partOf ["name"] [("items", keyPaths), ("optional", flag)]),
  ("downwardAPI", record [("items", downwardFiles)]),
  ("secret", partOf ["name"] [("items", keyPaths), ("optional", flag)]),
  ("serviceAccountToken", partOf ["audience", "path"] [("expirationSeconds", int64)])]

/-- The kinds of volumes on a network or a disk. -/
def storageVolumes : List (String × FieldType) := [
  ("awsElasticBlockStore", partOf ["fsType", "volumeID"]
    [("partition", int32), ("readOnly", flag)]),
  ("azureDisk", partOf ["cachingMode", "diskName", "diskURI", "fsType", "kind"]
    [("readOnly", flag)]),
  ("azureFile", partOf ["secretName", "shareName"] [("readOnly", flag)]),
  ("cephfs", partOf ["path", "secretFile", "user"]
    [("monitors", texts), ("readOnly", flag), ("secretRef", localReference)]),
  ("cinder", partOf ["fsType", "volumeID"]
    [("readOnly", flag), ("secretRef", localReference)]),
  ("csi", partOf ["driver", "fsType"] [("nodePublishSecretRef", localReference),
    ("readOnly", flag), ("volumeAttributes", textMap)]),
  ("fc", partOf ["fsType"]
    [("lun", int32), ("readOnly", flag), ("targetWWNs", texts), ("wwids", texts)]),
  ("flexVolume", partOf ["driver", "fsType"]
    [("options", textMap), ("readOnly", flag), ("secretRef", localReference)]),
  ("flocker", partOf ["datasetName", "datasetUUID"] []),
  ("gcePersistentDisk", partOf ["fsType", "pdName"] [("partition", int32), ("readOnly", flag)]),
  ("gitRepo", partOf ["directory", "repository", "revision"] []),
  ("glusterfs", partOf ["endpoints", "path"] [("readOnly", flag)]),
  ("iscsi", partOf ["fsType", "initiatorName", "iqn", "iscsiInterface", "targetPortal"]
    [("chapAuthDiscovery", flag), ("chapAuthSession", flag), ("lun", int32), ("portals", texts),
      ("readOnly", flag), ("secretRef", localReference)]),
  ("nfs", partOf ["path", "server"] [("readOnly", flag)]),
  ("photonPersistentDisk", partOf ["fsType", "pdID"] []),
  ("portworxVolume", partOf ["fsType", "volumeID"] [("readOnly", flag)]),
  ("quobyte", partOf ["group", "registry", "tenant", "user", "volume"] [("readOnly", flag)]),
  ("rbd", partOf ["fsType", "image", "keyring", "pool", "user"]
    [("monitors", texts), ("readOnly", flag), ("secretRef", localReference)]),
  ("scaleIO", partOf ["fsType", "gateway", "protectionDomain", "storageMode", "storagePool",
      "system", "volumeName"]
    [("readOnly", flag), ("secretRef", localReference), ("sslEnabled", flag)]),
  ("storageos", partOf ["fsType", "volumeName", "volumeNamespace"]
    [("readOnly", flag), ("secretRef", localReference)]),
  ("vsphereVolume", partOf ["fsType", "storagePolicyID", "storagePolicyName", "volumePath"] [])]

/-- A volume. -/
def volume : FieldType := record (storageVolumes ++ [
  ("configMap", partOf ["name"]
    [("defaultMode", int32), ("items", keyPaths), ("optional", flag)]),
  ("downwardAPI", record [("defaultMode", int32), ("items", downwardFiles)]),
  ("emptyDir", partOf ["medium", "sizeLimit"] []),
  ("ephemeral", record [("volumeClaimTemplate",
    record [("metadata", Metadata.schema), ("spec", volumeClaim)])]),
  ("hostPath", partOf ["path", "type"] []),
  ("image", partOf ["pullPolicy", "reference"] []),
  ("name", text),
  ("persistentVolumeClaim", partOf ["claimName"] [("readOnly", flag)]),
  ("projected", record [("defaultMode", int32), ("sources", list projection)]),
  ("secret", partOf ["secretName"]
    [("defaultMode", int32), ("items", keyPaths), ("optional", flag)])])

/-! ### The pod -/

/-- What a pod may do. -/
def podSecurityContext : FieldType := partOf
  ["fsGroupChangePolicy", "seLinuxChangePolicy", "supplementalGroupsPolicy"]
  [("appArmorProfile", profile), ("fsGroup", int64), ("runAsGroup", int64),
    ("runAsNonRoot", flag), ("runAsUser", int64), ("seLinuxOptions", securityLabels),
    ("seccompProfile", profile), ("supplementalGroups", list int64),
    ("sysctls", list (partOf ["name", "value"] [])), ("windowsOptions", windowsOptions)]

/-- How a pod resolves names. -/
def dnsConfig : FieldType := record [("nameservers", texts),
  ("options", list (partOf ["name", "value"] [])), ("searches", texts)]

/-- What a pod consists of. -/
def spec : FieldType := partOf
  ["dnsPolicy", "hostname", "nodeName", "preemptionPolicy", "priorityClassName",
    "restartPolicy", "runtimeClassName", "schedulerName", "serviceAccount",
    "serviceAccountName", "subdomain"]
  [("activeDeadlineSeconds", int64), ("affinity", affinity),
    ("automountServiceAccountToken", flag), ("containers", list container),
    ("dnsConfig", dnsConfig), ("enableServiceLinks", flag),
    ("ephemeralContainers", list ephemeralContainer),
    ("hostAliases", list (partOf ["ip"] [("hostnames", texts)])), ("hostIPC", flag),
    ("hostNetwork", flag), ("hostPID", flag), ("hostUsers", flag),
    ("imagePullSecrets", list localReference), ("initContainers", list container),
    ("nodeSelector", textMap), ("os", partOf ["name"] []), ("overhead", quantities),
    ("priority", int32), ("readinessGates", list (partOf ["conditionType"] [])),
    ("resourceClaims",
      list (partOf ["name", "resourceClaimName", "resourceClaimTemplateName"] [])),
    ("resources", resources), ("schedulingGates", list (partOf ["name"] [])),
    ("securityContext", podSecurityContext), ("setHostnameAsFQDN", flag),
    ("shareProcessNamespace", flag), ("terminationGracePeriodSeconds", int64),
    ("tolerations", list toleration), ("topologySpreadConstraints", list spreadConstraint),
    ("volumes", list volume)]

/-- What a container is doing. -/
def containerState : FieldType := record [
  ("running", record [("startedAt", time)]),
  ("terminated", partOf ["containerID", "message", "reason"] [("exitCode", int32),
    ("finishedAt", time), ("signal", int32), ("startedAt", time)]),
  ("waiting", partOf ["message", "reason"] [])]

/-- How a container is doing. -/
def containerStatus : FieldType := partOf ["containerID", "image", "imageID", "name"]
  [("allocatedResources", quantities),
    ("allocatedResourcesStatus", list (partOf ["name"]
      [("resources", list (partOf ["health", "resourceID"] []))])),
    ("lastState", containerState), ("ready", flag), ("resources", resources),
    ("restartCount", int32), ("started", flag), ("state", containerState),
    ("user", record [("linux", record [("gid", int64), ("supplementalGroups", list int64),
      ("uid", int64)])]),
    ("volumeMounts", list (partOf ["mountPath", "name", "recursiveReadOnly"]
      [("readOnly", flag)]))]

/-- How a pod is doing. -/
def status : FieldType := partOf
  ["hostIP", "message", "nominatedNodeName", "phase", "podIP", "qosClass", "reason", "resize"]
  [("conditions", list (partOf ["message", "reason", "status", "type"]
      [("lastProbeTime", time), ("lastTransitionTime", time)])),
    ("containerStatuses", list containerStatus),
    ("ephemeralContainerStatuses", list containerStatus),
    ("hostIPs", list (partOf ["ip"] [])), ("initContainerStatuses", list containerStatus),
    ("podIPs", list (partOf ["ip"] [])),
    ("resourceClaimStatuses", list (partOf ["name", "resourceClaimName"] [])),
    ("startTime", time)]

/-- A pod. -/
def pod : FieldType := record [("metadata", Metadata.schema), ("spec", spec), ("status", status)]

end PodSchema

end ClusterGateway
