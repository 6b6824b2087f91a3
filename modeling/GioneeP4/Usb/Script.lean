-- SUMMARY: init.mt6582.usb.rc: the nodes, properties and services it names, and its actions.
import GioneeP4.Lib.Init

/-!
# The USB script

The configurations of the gadget differ in the vendor and product identifiers, in
what they set up between disabling and enabling it, and in whether they start
`adbd`. The changes of ownership on `post-fs-data` are left out.
-/

namespace Usb

/-- Nodes under `/sys/class/android_usb/android0`, and two under `/sys/devices/platform/mt_usb`. -/
inductive Node
  | iSerial
  | idVendor
  | idProduct
  | functions
  | bDeviceClass
  | enable
  | acmInstances -- f_acm/instances
  | acmPortIndex -- f_acm/port_index
  | massStorageBicr -- f_mass_storage/bicr
  | massStorageLunFile -- f_mass_storage/lun/file
  | rndisWceis -- f_rndis/wceis
  | rndisManufacturer -- f_rndis/manufacturer
  | rndisVendorID -- f_rndis/vendorID
  | cmode -- mt_usb/cmode
  | portmode -- mt_usb/portmode
  deriving DecidableEq

inductive Property
  | roSerialno -- ro.serialno
  | persistConfig -- persist.sys.usb.config
  | usbVid -- sys.usb.vid
  | usbConfig -- sys.usb.config
  | usbState -- sys.usb.state
  | usbCharging -- sys.usb.charging
  | usbBicr -- sys.usb.bicr
  | portMode -- mediatek.usb.port.mode
  deriving DecidableEq

inductive Service
  | adbd
  deriving DecidableEq

abbrev Word := Init.Word Property
abbrev Command := Init.Command Property Node Service
abbrev Action := Init.Action Property Node Service
abbrev State := Init.State Property Node Service

def onInit : List Command :=
  [.setprop .usbVid "0BB4",
   .write .iSerial (.property .roSerialno),
   .write .idVendor (.property .usbVid)]

def onPostFsData : List Command :=
  [.write .rndisWceis "1",
   .write .rndisManufacturer "MediaTek",
   .write .rndisVendorID (.property .usbVid)]

def persistConfig : Action :=
  ⟨.persistConfig, none, [.setprop .usbConfig (.property .persistConfig)]⟩

/-! ## Configurations -/

def vid : Word := .property .usbVid

/-- The vendor of accessories. -/
def accessoryVid : Word := "18d1"

def usbConfig : Word := .property .usbConfig

/-- An action for a value of `sys.usb.config` that enables the gadget. -/
def configuration (config : String) (idVendor : Word) (idProduct : String)
    (setup services : List Command) : Action :=
  ⟨.usbConfig, some config,
    [.write .enable "0",
     .write .idVendor idVendor,
     .write .idProduct idProduct] ++
    setup ++
    [.write .enable "1"] ++
    services ++
    [.setprop .usbState usbConfig]⟩

def functions : Command := .write .functions usbConfig
def acmInstances : Command := .write .acmInstances "1"
def startAdbd : Command := .start .adbd

/-- The node that a block device backs a mass storage with. -/
def bicrFile : List Command :=
  [.write .massStorageBicr "1",
   .write .massStorageLunFile "/dev/block/loop0"]

def usbNone : Action :=
  ⟨.usbConfig, some "none",
    [.stop .adbd,
     .write .enable "0",
     .write .bDeviceClass "0",
     .setprop .usbState usbConfig]⟩

def acm : Action :=
  configuration "acm" vid "0006" [acmInstances, functions, .write .bDeviceClass "02"] []
def adb : Action :=
  configuration "adb" vid "0C01" [functions] [startAdbd]
def adbAcm : Action :=
  configuration "adb,acm" vid "200E" [acmInstances, functions] [startAdbd]
def massStorage : Action :=
  configuration "mass_storage" vid "0001" [functions] []
def massStorageAdb : Action :=
  configuration "mass_storage,adb" vid "0C03" [functions] [startAdbd]
def mtp : Action :=
  configuration "mtp" vid "2008" [functions] []
def mtpAcm : Action :=
  configuration "mtp,acm" vid "2012" [acmInstances, functions] []
def mtpAdb : Action :=
  configuration "mtp,adb" vid "0C02" [.write .functions "mtp,adb"] [startAdbd]
def mtpAdbAcm : Action :=
  configuration "mtp,adb,acm" vid "200A" [acmInstances, functions] [startAdbd]
def mtpMassStorage : Action :=
  configuration "mtp,mass_storage" vid "2016" [functions] []
def mtpMassStorageAdb : Action :=
  configuration "mtp,mass_storage,adb" vid "2017" [functions] [startAdbd]
def ptp : Action :=
  configuration "ptp" vid "200B" [functions] []
def ptpAcm : Action :=
  configuration "ptp,acm" vid "2013" [acmInstances, functions] []
def ptpAdb : Action :=
  configuration "ptp,adb" vid "200C" [functions] [startAdbd]
def ptpAdbAcm : Action :=
  configuration "ptp,adb,acm" vid "200D" [acmInstances, functions] [startAdbd]
def ptpMassStorage : Action :=
  configuration "ptp,mass_storage" vid "2015" [functions] []
def ptpMassStorageAdb : Action :=
  configuration "ptp,mass_storage,adb" vid "2014" [functions] [startAdbd]
def rndis : Action :=
  configuration "rndis" vid "0003" [functions, .write .bDeviceClass "224"] []
def rndisAcm : Action :=
  configuration "rndis,acm" vid "2011" [acmInstances, functions] []
def rndisAdb : Action :=
  configuration "rndis,adb" vid "0004" [functions] [startAdbd]
def rndisAdbAcm : Action :=
  configuration "rndis,adb,acm" vid "2010" [acmInstances, functions] [startAdbd]
def massStorageAcm : Action :=
  configuration "mass_storage,acm" vid "200F" [acmInstances, functions] []
def massStorageAdbAcm : Action :=
  configuration "mass_storage,adb,acm" vid "0005" [acmInstances, functions] [startAdbd]
def mtpMassStorageAcm : Action :=
  configuration "mtp,mass_storage,acm" vid "2018" [acmInstances, functions] []
def mtpMassStorageAdbAcm : Action :=
  configuration "mtp,mass_storage,adb,acm" vid "2019" [acmInstances, functions] [startAdbd]
def ptpMassStorageAcm : Action :=
  configuration "ptp,mass_storage,acm" vid "201A" [acmInstances, functions] []
def ptpMassStorageAdbAcm : Action :=
  configuration "ptp,mass_storage,adb,acm" vid "201B" [acmInstances, functions] [startAdbd]
def accessory : Action :=
  configuration "accessory" accessoryVid "2d00" [functions] []
def accessoryAdb : Action :=
  configuration "accessory,adb" accessoryVid "2d01" [functions] [startAdbd]
def audioSource : Action :=
  configuration "audio_source" accessoryVid "2d02" [functions] []
def audioSourceAdb : Action :=
  configuration "audio_source,adb" accessoryVid "2d03" [functions] [startAdbd]
def accessoryAudioSource : Action :=
  configuration "accessory,audio_source" accessoryVid "2d04" [functions] []
def accessoryAudioSourceAdb : Action :=
  configuration "accessory,audio_source,adb" accessoryVid "2d05" [functions] [startAdbd]

/-- Charging does not touch the gadget. -/
def charging : Action :=
  ⟨.usbConfig, some "charging",
    [.setprop .usbState usbConfig,
     .setprop .usbCharging "yes"]⟩

def chargingYes : Action := ⟨.usbCharging, some "yes", [.write .cmode "2"]⟩
def chargingNo : Action := ⟨.usbCharging, some "no", [.write .cmode "1"]⟩

def bicr : Action :=
  configuration "bicr" vid "0001"
    (.write .functions "mass_storage" :: bicrFile) []
def bicrAdb : Action :=
  configuration "bicr,adb" vid "0C03"
    (.write .functions "mass_storage,adb" :: bicrFile) [startAdbd]
def bicrAdbAcm : Action :=
  configuration "bicr,adb,acm" vid "0005"
    (acmInstances :: .write .functions "mass_storage,adb,acm" :: bicrFile) [startAdbd]
def bicrAcm : Action :=
  configuration "bicr,acm" vid "200F"
    (acmInstances :: .write .functions "mass_storage,acm" :: bicrFile) []
def eem : Action :=
  configuration "eem" vid "2026" [functions, .write .bDeviceClass "224"] []
def eemAcm : Action :=
  configuration "eem,acm" vid "2027" [acmInstances, functions] []
def eemAdb : Action :=
  configuration "eem,adb" vid "2028" [functions] [startAdbd]
def eemAdbAcm : Action :=
  configuration "eem,adb,acm" vid "2029" [acmInstances, functions] [startAdbd]
def acmThird : Action :=
  configuration "acm_third" vid "0005"
    [.write .acmPortIndex "3", .write .functions "mass_storage,adb,acm"] [startAdbd]
def gs3 : Action :=
  configuration "gs3" vid "0005"
    [.write .acmPortIndex "4", .write .functions "mass_storage,adb,acm"] [startAdbd]

/-! ## Other properties -/

def bicrYes : Action := ⟨.usbBicr, some "yes", bicrFile⟩
def bicrNo : Action :=
  ⟨.usbBicr, some "no", [.write .massStorageBicr "0", .write .massStorageLunFile "0"]⟩

def portModeUsb : Action := ⟨.portMode, some "usb", [.write .portmode "0"]⟩
def portModeUart : Action := ⟨.portMode, some "uart", [.write .portmode "1"]⟩

/-- The actions of the file that wait for a property, in its order. -/
def actions : List Action :=
  [persistConfig, usbNone, acm, adb, adbAcm, massStorage, massStorageAdb, mtp, mtpAcm, mtpAdb,
    mtpAdbAcm, mtpMassStorage, mtpMassStorageAdb, ptp, ptpAcm, ptpAdb, ptpAdbAcm,
    ptpMassStorage, ptpMassStorageAdb, rndis, rndisAcm, rndisAdb, rndisAdbAcm, massStorageAcm,
    massStorageAdbAcm, mtpMassStorageAcm, mtpMassStorageAdbAcm, ptpMassStorageAcm,
    ptpMassStorageAdbAcm, accessory, accessoryAdb, audioSource, audioSourceAdb,
    accessoryAudioSource, accessoryAudioSourceAdb, charging, chargingYes, chargingNo, bicr,
    bicrAdb, bicrAdbAcm, bicrAcm, eem, eemAcm, eemAdb, eemAdbAcm, acmThird, gs3, bicrYes, bicrNo,
    portModeUsb, portModeUart]

end Usb
